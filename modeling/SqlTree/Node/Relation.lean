import SqlTree.Node.Name

/-!
# Relations and table references

The target of a statement is the bare record of a relation, while an item of a FROM or USING clause
is a node. A dotted name is split at its first dot into schema and relation.
-/

namespace SqlTree

namespace Node

def relationRecord (schema : Option String) (name : String) : Tree :=
  .object <|
    (match schema with
      | some schema => [("schemaname", .text schema)]
      | none => []) ++
    [("relname", .text name), ("inh", .bool true), ("relpersistence", .text "p")]

def relationIn (schema name : String) : Tree := relationRecord (some schema) name

def relation (text : String) : Tree :=
  match Text.splitFirst? '.' text with
  | some (schema, name) => relationIn schema name
  | none => relationRecord none text

def table (text : String) : Tree := .node "RangeVar" (relation text)

def tableIn (schema name : String) : Tree := .node "RangeVar" (relationIn schema name)

def aliasRecord (name : String) : Tree := .object [("aliasname", .text name)]

def tableAs (text name : String) : Tree :=
  .node "RangeVar" ((relation text).set "alias" (aliasRecord name))

def subselect (query : Tree) (name : String) : Tree :=
  .node "RangeSubselect" (.object [("subquery", query), ("alias", aliasRecord name)])

end Node

/-- What names a table: its name, or a node. -/
inductive TableRef where
  | named (name : String)
  | node (tree : Tree)
  deriving Repr, Inhabited

namespace TableRef

/-- The record of the relation. A `RangeVar` node gives its record, another tree is the record. -/
def relation : TableRef → Tree
  | .named name => Node.relation name
  | .node tree => (tree.recordOf? "RangeVar").getD tree

def item : TableRef → Tree
  | .named name => Node.table name
  | .node tree => tree

end TableRef

end SqlTree
