import SqlTree.Node.Relation
import SqlTree.Statement.Query

/-!
# INSERT

The rows of an INSERT stand in an embedded SELECT: either a query, or a SELECT whose only content
is a list of rows.
-/

namespace SqlTree

inductive ConflictAction where
  | nothing
  | update (assignments : List (String × Tree))
  deriving Repr

/-- An ON CONFLICT clause: the columns that are looked at, and what to do. -/
structure OnConflict where
  columns : List String
  action : ConflictAction
  deriving Repr

namespace Node

def assigned (name : String) (value : Option Tree) : Tree :=
  .node "ResTarget" <| .object <|
    ("name", .text name) ::
      (match value with
        | some value => [("val", value)]
        | none => [])

end Node

namespace OnConflict

def default : OnConflict := ⟨[], .nothing⟩

def onColumns (clause : OnConflict) (columns : List String) : OnConflict :=
  { clause with columns := clause.columns ++ columns }

def doNothing (clause : OnConflict) : OnConflict := { clause with action := .nothing }

def doUpdate (clause : OnConflict) (assignments : List (String × Operand)) : OnConflict :=
  { clause with action := .update (assignments.map fun (name, value) => (name, value.literal)) }

def toRecord (clause : OnConflict) : Tree :=
  .object <|
    (match clause.action with
      | .nothing => [("action", .text "ONCONFLICT_NOTHING")]
      | .update _ => [("action", .text "ONCONFLICT_UPDATE")]) ++
    (if clause.columns.isEmpty then []
      else
        [("infer", .object [("indexElems", .list (clause.columns.map Node.indexElement))])]) ++
    (match clause.action with
      | .nothing => []
      | .update assignments =>
          [("targetList",
            .list (assignments.map fun (name, value) => Node.assigned name (some value)))])

end OnConflict

structure Insert where
  query : Query

namespace Insert

def start (table : TableRef) : Insert :=
  ⟨.ofKind .insert <| .object
    [("relation", table.relation), ("override", .text "OVERRIDING_NOT_SET")]⟩

def columns (insert : Insert) (columns : List String) : Insert :=
  ⟨insert.query.append "cols" (columns.map fun name => Node.assigned name none)⟩

def mapColumns (insert : Insert) (change : List Tree → List Tree) : Insert :=
  ⟨insert.query.mapList "cols" change⟩

def rowNode (row : List Operand) : Tree := Node.list (row.map Operand.literal)

/-- The rows; there are none if they come from a query. -/
def rows (insert : Insert) : List Tree :=
  (((insert.query.record.get? "selectStmt").bind (·.record?)).map (·.itemsAt "valuesLists")).getD []

def withRows (insert : Insert) (rows : List Tree) : Insert :=
  ⟨insert.query.set "selectStmt" <| .node "SelectStmt" <| .object
    [("valuesLists", .list rows), ("limitOption", .text "LIMIT_OPTION_DEFAULT"),
      ("op", .text "SETOP_NONE")]⟩

def values (insert : Insert) (row : List Operand) : Insert := insert.withRows [rowNode row]

/-- Appends one row. A query as the source is given up. -/
def addValues (insert : Insert) (row : List Operand) : Insert :=
  insert.withRows (insert.rows ++ [rowNode row])

/-- Makes a query the source. A bare record is taken as that of a SELECT. -/
def fromSelect (insert : Insert) (source : Tree) : Insert :=
  ⟨insert.query.set "selectStmt"
    (if source.tagged?.isSome then source else .node "SelectStmt" source)⟩

def onConflict (insert : Insert) (clause : OnConflict) : Insert :=
  ⟨insert.query.set "onConflictClause" clause.toRecord⟩

def returning (insert : Insert) (columns : List Operand) : Insert :=
  ⟨insert.query.append "returningList" (columns.map Node.target)⟩

def mapReturning (insert : Insert) (change : List Tree → List Tree) : Insert :=
  ⟨insert.query.mapList "returningList" change⟩

def columnNames (insert : Insert) : List String :=
  (insert.query.record.itemsAt "cols").filterMap fun item => item.record?.bind (·.textAt? "name")

end Insert

end SqlTree
