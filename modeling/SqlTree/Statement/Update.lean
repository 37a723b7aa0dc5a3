import SqlTree.Node.Relation
import SqlTree.Statement.Query

/-!
# UPDATE

The assignments of an UPDATE are kept by column. Assigning to a column again replaces the earlier
assignment where it stands, and a new column goes to the end.
-/

namespace SqlTree

structure Update where
  query : Query

namespace Update

def start (table : TableRef) : Update := ⟨.ofKind .update (.object [("relation", table.relation)])⟩

def assignedColumn? (item : Tree) : Option String := item.record?.bind (·.textAt? "name")

def assignmentNode (column : String) (value : Operand) : Tree :=
  .node "ResTarget" (.object [("name", .text column), ("val", value.literal)])

/-- Assigns to a column, in the place of an earlier assignment or at the end. -/
def assign (column : String) (value : Operand) : List Tree → List Tree
  | [] => [assignmentNode column value]
  | item :: rest =>
      if assignedColumn? item = some column then assignmentNode column value :: rest
      else item :: assign column value rest

def set (update : Update) (assignments : List (String × Operand)) : Update :=
  ⟨update.query.setList "targetList" <|
    assignments.foldl (fun items (column, value) => assign column value items)
      (update.query.record.itemsAt "targetList")⟩

def mapAssignments (update : Update) (change : List Tree → List Tree) : Update :=
  ⟨update.query.mapList "targetList" change⟩

def filter (update : Update) (condition : Option Tree) : Update :=
  ⟨update.query.restrict "whereClause" condition⟩

def mapFilter (update : Update) (change : Option Tree → Option Tree) : Update :=
  ⟨update.query.mapOption "whereClause" change⟩

def fromTable (update : Update) (table : TableRef) : Update :=
  ⟨update.query.append "fromClause" [table.item]⟩

def mapFrom (update : Update) (change : List Tree → List Tree) : Update :=
  ⟨update.query.mapList "fromClause" change⟩

def returning (update : Update) (columns : List Operand) : Update :=
  ⟨update.query.append "returningList" (columns.map Node.target)⟩

def mapReturning (update : Update) (change : List Tree → List Tree) : Update :=
  ⟨update.query.mapList "returningList" change⟩

def assignedColumns (update : Update) : List String :=
  (update.query.record.itemsAt "targetList").filterMap assignedColumn?

end Update

end SqlTree
