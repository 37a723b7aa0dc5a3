import SqlTree.Error
import SqlTree.Node.Item
import SqlTree.Node.Relation

/-!
# Constraints and changes of a column

Constraints stand in the definition of a column or among the elements of a table. Those of one
column are collected in `ColumnConstraints`, and the commands that change one column in
`ColumnChanges`. Both are plain lists that grow at the end.
-/

namespace SqlTree

namespace Node

def constraint (type : String) (fields : List (String × Tree)) : Tree :=
  .node "Constraint" (.object (("contype", .text type) :: fields))

def keyConstraint (type : String) (columns : List String) : Tree :=
  constraint type [("keys", names columns)]

def checkConstraint (condition : Tree) : Tree :=
  constraint "CONSTR_CHECK" [("raw_expr", condition), ("initially_valid", .bool true)]

/-- A reference to another table. The constraint of a single column does not name that column. -/
def foreignKey (columns : Option (List String)) (table : String) (referenced : List String) :
    Tree :=
  constraint "CONSTR_FOREIGN" <|
    ("pktable", relation table) ::
      (match columns with
        | some columns => [("fk_attrs", names columns)]
        | none => []) ++
      [("pk_attrs", names referenced), ("fk_matchtype", .text "s"), ("fk_upd_action", .text "a"),
        ("fk_del_action", .text "a"), ("initially_valid", .bool true)]

def alterCommand (type : String) (name : Option String) (definition : Option Tree) : Tree :=
  .node "AlterTableCmd" <| .object <|
    ("subtype", .text type) ::
      (match name with
        | some name => [("name", .text name)]
        | none => []) ++
      (match definition with
        | some definition => [("def", definition)]
        | none => []) ++
      [("behavior", .text "DROP_RESTRICT")]

end Node

structure ColumnConstraints where
  constraints : List Tree

namespace ColumnConstraints

def empty : ColumnConstraints := ⟨[]⟩

def push (column : ColumnConstraints) (constraint : Tree) : ColumnConstraints :=
  ⟨column.constraints ++ [constraint]⟩

def notNull (column : ColumnConstraints) : ColumnConstraints :=
  column.push (Node.constraint "CONSTR_NOTNULL" [])

def primaryKey (column : ColumnConstraints) : ColumnConstraints :=
  column.push (Node.constraint "CONSTR_PRIMARY" [])

def unique (column : ColumnConstraints) : ColumnConstraints :=
  column.push (Node.constraint "CONSTR_UNIQUE" [])

def default (column : ColumnConstraints) (value : Operand) : ColumnConstraints :=
  column.push (Node.constraint "CONSTR_DEFAULT" [("raw_expr", value.literal)])

def references (column : ColumnConstraints) (table referenced : String) : ColumnConstraints :=
  column.push (Node.foreignKey none table [referenced])

def check (column : ColumnConstraints) (condition : Tree) : ColumnConstraints :=
  column.push (Node.checkConstraint condition)

def applyTo (column : ColumnConstraints) (record : Tree) : Tree :=
  if column.constraints.isEmpty then record.erase "constraints"
  else record.set "constraints" (.list column.constraints)

end ColumnConstraints

structure ColumnChanges where
  column : String
  commands : List Tree

namespace ColumnChanges

def empty (column : String) : ColumnChanges := ⟨column, []⟩

def push (changes : ColumnChanges) (type : String) : ColumnChanges :=
  { changes with
    commands := changes.commands ++ [Node.alterCommand type (some changes.column) none] }

def setNotNull (changes : ColumnChanges) : ColumnChanges := changes.push "AT_SetNotNull"

def dropNotNull (changes : ColumnChanges) : ColumnChanges := changes.push "AT_DropNotNull"

/-- Renaming is a statement of its own, so this always fails. -/
def rename (changes : ColumnChanges) (new : String) : Except Error ColumnChanges :=
  .error (.inexpressible (.renameColumn changes.column new))

end ColumnChanges

end SqlTree
