import SqlTree.Node.Condition
import SqlTree.Parser
import SqlTree.Statement.Kind

/-!
# Queries

A query is the common core of all statements: a record, its kind if that is known, and the parser
that prints it. This file has the updates of a clause that the statements share. A clause that is a
list disappears when it becomes empty, since a parser never reports empty lists.
-/

namespace SqlTree

/-- A record, or a whole shell, with its kind and its parser. -/
structure Query where
  record : Tree
  kind : Option String
  parser : Option Parser

namespace Query

def ofKind (kind : StatementKind) (record : Tree) : Query := ⟨record, some kind.name, none⟩

def withRecord (query : Query) (record : Tree) : Query := { query with record }

def set (query : Query) (clause : String) (value : Tree) : Query :=
  query.withRecord (query.record.set clause value)

def erase (query : Query) (clause : String) : Query :=
  query.withRecord (query.record.erase clause)

def setOption (query : Query) (clause : String) (value : Option Tree) : Query :=
  match value with
  | some value => query.set clause value
  | none => query.erase clause

/-- Writes a clause that is a list. An empty list removes it. -/
def setList (query : Query) (clause : String) (items : List Tree) : Query :=
  if items.isEmpty then query.erase clause else query.set clause (.list items)

def append (query : Query) (clause : String) (items : List Tree) : Query :=
  query.setList clause (query.record.itemsAt clause ++ items)

def mapList (query : Query) (clause : String) (change : List Tree → List Tree) : Query :=
  query.setList clause (change (query.record.itemsAt clause))

def mapOption (query : Query) (clause : String) (change : Option Tree → Option Tree) : Query :=
  query.setOption clause (change (query.record.get? clause))

/-- Demands a condition in addition to those of a clause. No condition changes nothing. -/
def restrict (query : Query) (clause : String) (condition : Option Tree) : Query :=
  match condition with
  | some condition =>
      query.setOption clause (Expr.conjunction [query.record.get? clause, some condition])
  | none => query

/-- The kind that the query was given, or else the one that its fields tell. -/
def statementKind? (query : Query) : Option String :=
  query.kind.orElse fun _ => (StatementKind.detect? query.record).map (·.name)

/-- The node of the query, or its bare record if the kind is not known. -/
def toNode (query : Query) : Tree :=
  match query.kind with
  | some kind => .node kind query.record
  | none => query.record

/--
Prints the query. A shell is printed as it is. A record of a kind that ends in `Stmt` is a statement
and is put into a shell; a record of another kind is printed as a single node.
-/
def printWith (query : Query) (parser : Parser) : Except Error String :=
  if query.record.isShell then (parser.print query.record).mapError .print
  else
    match query.statementKind? with
    | some kind =>
        let node := Tree.node kind query.record
        if Text.endsWith "Stmt" kind then (parser.print (.shell [node])).mapError .print
        else (parser.printNode node).mapError .print
    | none => .error .unknownKind

def print (query : Query) : Except Error String :=
  match query.parser with
  | some parser => query.printWith parser
  | none => .error .missingParser

end Query

end SqlTree
