import SqlTree.Decimal.Binary64
import SqlTree.Decimal.Layout
import SqlTree.Decimal.Shortest
import SqlTree.Error
import SqlTree.Json.Document
import SqlTree.Json.Number
import SqlTree.Json.Reader
import SqlTree.Json.Writer
import SqlTree.Node.Condition
import SqlTree.Node.Item
import SqlTree.Node.Name
import SqlTree.Node.Operand
import SqlTree.Node.Relation
import SqlTree.Node.TypeName
import SqlTree.Parser
import SqlTree.Print.Expression
import SqlTree.Print.Literal
import SqlTree.Print.Part
import SqlTree.Print.Printer
import SqlTree.Print.Statement
import SqlTree.Proofs.Json.Token
import SqlTree.Proofs.Traverse.Address
import SqlTree.Proofs.Traverse.Outermost
import SqlTree.Proofs.Traverse.Plan
import SqlTree.Proofs.Traverse.Preorder
import SqlTree.Proofs.Traverse.Substitution
import SqlTree.Proofs.Tree.Content
import SqlTree.Proofs.Tree.Rearrangement
import SqlTree.Recorded
import SqlTree.Scanner
import SqlTree.Statement.AlterTable
import SqlTree.Statement.Builder
import SqlTree.Statement.Constraint
import SqlTree.Statement.CreateIndex
import SqlTree.Statement.CreateTable
import SqlTree.Statement.Delete
import SqlTree.Statement.Insert
import SqlTree.Statement.Kind
import SqlTree.Statement.Query
import SqlTree.Statement.Select
import SqlTree.Statement.Update
import SqlTree.Text.Blank
import SqlTree.Text.Integer
import SqlTree.Text.Invisible
import SqlTree.Text.Quoted
import SqlTree.Text.Split
import SqlTree.Traverse.Context
import SqlTree.Traverse.Predicate
import SqlTree.Traverse.Replace
import SqlTree.Traverse.Visit
import SqlTree.Traverse.Walk
import SqlTree.Tree.Basic
import SqlTree.Tree.Fields
import SqlTree.Tree.Kind
import SqlTree.Wire.Record
import SqlTree.Wire.Word
import SqlTree.Proofs.Json.RoundTrip
import SqlTree.Proofs.Json.Decoded
import SqlTree.Proofs.Print.Comparison
import SqlTree.Proofs.Print.Expressions
import SqlTree.Proofs.Print.Statements
import SqlTree.Proofs.Print.StringData
import SqlTree.Proofs.Print.Fixpoint
import SqlTree.Proofs.Print.Alike
import SqlTree.Proofs.Print.FieldOrder
import SqlTree.Proofs.Print.Nodes
import SqlTree.Proofs.Print.Conditions
import SqlTree.Proofs.Print.Success
import SqlTree.Proofs.Print.Clauses
import SqlTree.Proofs.Print.Items
import SqlTree.Proofs.Print.Updates
import SqlTree.Proofs.Print.Built
import SqlTree.Proofs.Statement.SelectCalls
import SqlTree.Proofs.Statement.Interleaving
import SqlTree.Proofs.Statement.Detection
import SqlTree.Proofs.Statement.Writes
import SqlTree.Proofs.Statement.Reached
import SqlTree.Proofs.Traverse.Search
import SqlTree.Proofs.Traverse.First
import SqlTree.Proofs.Traverse.Removal
import SqlTree.Proofs.Statement.Arms
import SqlTree.Proofs.Statement.Compound
import SqlTree.Proofs.Print.Chains
import SqlTree.Proofs.Node.Combination
import SqlTree.Proofs.Print.Arithmetic
import SqlTree.Proofs.Statement.Filters
import SqlTree.Proofs.Statement.RowSource
import SqlTree.Proofs.Statement.NamedItems
import SqlTree.Proofs.Statement.Assignments
import SqlTree.Proofs.Statement.ColumnHistory
import SqlTree.Proofs.Statement.LimitWord
import SqlTree.Proofs.Statement.FilledLists
import SqlTree.Proofs.Statement.Wrapping
import SqlTree.Proofs.Statement.Lineage
import SqlTree.Proofs.Statement.RecordSearch
import SqlTree.Proofs.Tree.Repeated
import SqlTree.Proofs.Tree.Distinct
import SqlTree.Proofs.Node.Distinct
import SqlTree.Proofs.Traverse.Mentions
import SqlTree.Proofs.Traverse.Consumers
import SqlTree.Proofs.Traverse.Distinct
import SqlTree.Proofs.Json.Routes
import SqlTree.Proofs.Statement.Distinct
import SqlTree.Proofs.Statement.Tidy
import SqlTree.Proofs.Print.Literals
import SqlTree.Proofs.Node.WrittenType
import SqlTree.Proofs.Scanner.Layout
import SqlTree.Proofs.Scanner.Tokens
import SqlTree.Proofs.Statement.Joins
import SqlTree.Proofs.Tree.History
import SqlTree.Proofs.Print.DottedNames
