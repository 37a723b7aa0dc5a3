import SqlTree.Statement.Constraint
import SqlTree.Statement.Query

/-!
# ALTER TABLE

An ALTER TABLE is a list of commands. Renaming a column or a table is a statement of its own and
cannot be one of them.
-/

namespace SqlTree

structure AlterTable where
  query : Query

namespace AlterTable

def start (table : TableRef) : AlterTable :=
  ⟨.ofKind .alterTable <| .object
    [("relation", table.relation), ("objtype", .text "OBJECT_TABLE")]⟩

def push (table : AlterTable) (commands : List Tree) : AlterTable :=
  ⟨table.query.append "cmds" commands⟩

/-- A definition with constraints. One without any keeps the record as it is. -/
def constrained (definition : Tree) (constraints : ColumnConstraints) : Tree :=
  if constraints.constraints.isEmpty then definition
  else
    match definition.record? with
    | some record => .node "ColumnDef" (constraints.applyTo record)
    | none => definition

def addConstrainedColumn (table : AlterTable) (name type : String)
    (change : ColumnConstraints → ColumnConstraints) : AlterTable :=
  let definition := constrained (Node.columnDefinition name type) (change .empty)
  table.push [Node.alterCommand "AT_AddColumn" none (some definition)]

def addColumn (table : AlterTable) (name type : String) : AlterTable :=
  table.addConstrainedColumn name type id

def dropColumn (table : AlterTable) (name : String) : AlterTable :=
  table.push [Node.alterCommand "AT_DropColumn" (some name) none]

def alterColumn (table : AlterTable) (name : String)
    (change : ColumnChanges → Except Error ColumnChanges) : Except Error AlterTable :=
  (change (.empty name)).map fun changes => table.push changes.commands

def addConstraint (table : AlterTable) (constraint : Tree) : AlterTable :=
  table.push [Node.alterCommand "AT_AddConstraint" none (some constraint)]

def dropConstraint (table : AlterTable) (name : String) : AlterTable :=
  table.push [Node.alterCommand "AT_DropConstraint" (some name) none]

def ifExists (table : AlterTable) : AlterTable := ⟨table.query.set "missing_ok" (.bool true)⟩

/-- Always fails. -/
def renameColumn (_table : AlterTable) (old new : String) : Except Error AlterTable :=
  .error (.inexpressible (.renameColumn old new))

def renameTo (_table : AlterTable) (new : String) : Except Error AlterTable :=
  .error (.inexpressible (.renameTable new))

def commands (table : AlterTable) : List Tree := table.query.record.itemsAt "cmds"

end AlterTable

end SqlTree
