import SqlTree.Tree.Kind

/-!
# Kinds of statements

Each of the seven kinds of statements has a node kind of its own. When only the record of a
statement is at hand, its kind is told from the fields that it has. Fields of definitions come
first because no other statement has them. A statement with a target relation is never a SELECT.
-/

namespace SqlTree

inductive StatementKind where
  | select
  | insert
  | update
  | delete
  | createTable
  | alterTable
  | createIndex
  deriving DecidableEq, Repr, Inhabited

namespace StatementKind

def name : StatementKind → String
  | .select => "SelectStmt"
  | .insert => "InsertStmt"
  | .update => "UpdateStmt"
  | .delete => "DeleteStmt"
  | .createTable => "CreateStmt"
  | .alterTable => "AlterTableStmt"
  | .createIndex => "IndexStmt"

theorem isKindName_name (kind : StatementKind) : isKindName kind.name = true := by
  cases kind <;> decide

def ofName? (name : String) : Option StatementKind :=
  match name with
  | "SelectStmt" => some .select
  | "InsertStmt" => some .insert
  | "UpdateStmt" => some .update
  | "DeleteStmt" => some .delete
  | "CreateStmt" => some .createTable
  | "AlterTableStmt" => some .alterTable
  | "IndexStmt" => some .createIndex
  | _ => none

/-- The kind of the statement that has these fields. -/
def detectFields? (fields : List (String × Tree)) : Option StatementKind :=
  let has (key : String) : Bool := Fields.contains key fields
  if has "tableElts" then some .createTable
  else if has "cmds" && has "objtype" then some .alterTable
  else if has "idxname" || has "indexParams" then some .createIndex
  else if has "relation" then
    if has "cols" || has "selectStmt" || has "onConflictClause" then some .insert
    else if has "targetList" then some .update
    else if has "usingClause" || has "whereClause" then some .delete
    else none
  else if has "targetList" || has "fromClause" || has "op" || has "valuesLists" then some .select
  else none

def detect? (record : Tree) : Option StatementKind := record.object?.bind detectFields?

end StatementKind

end SqlTree
