import SqlTree.Statement.Constraint
import SqlTree.Statement.Query

/-!
# CREATE TABLE

The elements of a table are the definitions of its columns and its constraints, in one list. There
is one definition for each column: defining a column again replaces the earlier definition where it
stands.
-/

namespace SqlTree

structure CreateTable where
  query : Query

namespace CreateTable

def start (table : TableRef) : CreateTable :=
  ⟨.ofKind .createTable <| .object
    [("relation", table.relation), ("oncommit", .text "ONCOMMIT_NOOP")]⟩

def definedColumn? (element : Tree) : Option String :=
  (element.recordOf? "ColumnDef").bind (·.textAt? "colname")

/-- Puts a definition in the place of an earlier one of the same column, or at the end. -/
def define (definition : Tree) : List Tree → List Tree
  | [] => [definition]
  | element :: rest =>
      if (definedColumn? element).isSome && definedColumn? element == definedColumn? definition then
        definition :: rest
      else element :: define definition rest

def defineColumn (table : CreateTable) (definition : Tree) : CreateTable :=
  ⟨table.query.mapList "tableElts" (define definition)⟩

def constrain (definition : Tree) (constraints : ColumnConstraints) : Tree :=
  match definition.record? with
  | some record => .node "ColumnDef" (constraints.applyTo record)
  | none => definition

def column (table : CreateTable) (name type : String) : CreateTable :=
  table.defineColumn (Node.columnDefinition name type)

def constrainedColumn (table : CreateTable) (name type : String)
    (change : ColumnConstraints → ColumnConstraints) : CreateTable :=
  table.defineColumn (constrain (Node.columnDefinition name type) (change .empty))

def definition? (table : CreateTable) (name : String) : Option Tree :=
  (table.query.record.itemsAt "tableElts").find? fun element => definedColumn? element == some name

def constraintsOf (definition : Tree) : ColumnConstraints :=
  ⟨(definition.record?.map (·.itemsAt "constraints")).getD []⟩

/-- Changes the constraints of a column. A column that is not defined changes nothing. -/
def alterColumn (table : CreateTable) (name : String)
    (change : ColumnConstraints → ColumnConstraints) : CreateTable :=
  match table.definition? name with
  | none => table
  | some definition =>
      table.defineColumn (constrain definition (change (constraintsOf definition)))

/--
Changes the constraints of a column by a computation, which may fail. For a column that is not
defined the computation is not run.
-/
def alterColumnM {m : Type → Type} [Monad m] (table : CreateTable) (name : String)
    (change : ColumnConstraints → m ColumnConstraints) : m CreateTable :=
  match table.definition? name with
  | none => pure table
  | some definition => do
      let constraints ← change (constraintsOf definition)
      return table.defineColumn (constrain definition constraints)

/-- A computation without effects changes a column as the function does that it computes. -/
@[simp]
theorem alterColumnM_pure {m : Type → Type} [Monad m] [LawfulMonad m] (table : CreateTable)
    (name : String) (change : ColumnConstraints → ColumnConstraints) :
    table.alterColumnM (m := m) name (fun constraints => pure (change constraints)) =
      pure (table.alterColumn name change) := by
  cases defined : table.definition? name with
  | none => simp [alterColumnM, alterColumn, defined]
  | some definition => simp [alterColumnM, alterColumn, defined]

def mapColumns (table : CreateTable) (change : List Tree → List Tree) : CreateTable :=
  ⟨table.query.mapList "tableElts" change⟩

def dropColumn (table : CreateTable) (name : String) : CreateTable :=
  ⟨table.query.mapList "tableElts" (·.filter fun element => definedColumn? element != some name)⟩

def addConstraint (table : CreateTable) (constraint : Tree) : CreateTable :=
  ⟨table.query.append "tableElts" [constraint]⟩

def primaryKey (table : CreateTable) (columns : List String) : CreateTable :=
  table.addConstraint (Node.keyConstraint "CONSTR_PRIMARY" columns)

def unique (table : CreateTable) (columns : List String) : CreateTable :=
  table.addConstraint (Node.keyConstraint "CONSTR_UNIQUE" columns)

def check (table : CreateTable) (condition : Tree) : CreateTable :=
  table.addConstraint (Node.checkConstraint condition)

def foreignKey (table : CreateTable) (columns : List String) (other : String)
    (referenced : List String) : CreateTable :=
  table.addConstraint (Node.foreignKey (some columns) other referenced)

def ifNotExists (table : CreateTable) : CreateTable :=
  ⟨table.query.set "if_not_exists" (.bool true)⟩

def columnNames (table : CreateTable) : List String :=
  (table.query.record.itemsAt "tableElts").filterMap definedColumn?

end CreateTable

end SqlTree
