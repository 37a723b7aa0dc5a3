import SqlTree.Print.Literal
import SqlTree.Print.Part

/-!
# Printing expressions

One level of an expression. Parentheses are written around the conditions inside AND, OR and NOT
that are themselves such combinations, and around subqueries and lists, and nowhere else.
-/

namespace SqlTree.Print

def columnPart (part : Tree) : String :=
  if part.kind? = some "A_Star" then "*" else (Node.nameText? part).getD ""

/-- A constant. The first field that says what it is decides. -/
def constant (record : Tree) : Printed :=
  if record.flagAt "isnull" then .ok "NULL"
  else
    match record.get? "ival" with
    | some value => .ok (toString (((value.get? "ival").bind (·.int?)).getD 0))
    | none =>
    match record.get? "fval" with
    | some value => .ok ((value.textAt? "fval").getD "0")
    | none =>
    match record.get? "boolval" with
    | some value => .ok (if value.flagAt "boolval" then "true" else "false")
    | none =>
    match record.get? "sval" with
    | some value => .ok (quote (textOrEmpty value "sval"))
    | none => .error (cannotPrint "A_Const")

namespace Printer

variable (printer : Printer)

/-- A type with its modifiers. Modifiers that cannot be printed are left out. -/
def typeName (record : Tree) : String :=
  let name := Text.dropStart "pg_catalog." (nameList (record.itemsAt "names") ".")
  let modifiers := (record.itemsAt "typmods").filterMap fun modifier =>
    (printer.expression modifier).toOption
  if modifiers.isEmpty then name else name ++ "(" ++ Text.join ", " modifiers ++ ")"

def bounds (tree : Tree) : Except PrintError (Tree × Tree) :=
  match tree.recordOf? "List" with
  | some record =>
      match record.itemsAt "items" with
      | [low, high] => .ok (low, high)
      | _ => .error (cannotPrint "BETWEEN bounds")
  | none => .error (cannotPrint "BETWEEN bounds")

def operator (record : Tree) : String :=
  (((record.itemsAt "name").head?).bind Node.nameText?).getD "="

def rightHandSide (record : Tree) (left : String) (right : Tree) : Printed :=
  match record.textAt? "kind" with
  | some "AEXPR_LIKE" => do return left ++ " LIKE " ++ (← printer.expression right)
  | some "AEXPR_ILIKE" => do return left ++ " ILIKE " ++ (← printer.expression right)
  | some "AEXPR_BETWEEN" => do
      let (low, high) ← bounds right
      let low ← printer.expression low
      let high ← printer.expression high
      return left ++ " BETWEEN " ++ low ++ " AND " ++ high
  | some "AEXPR_IN" => do
      let items := (right.record?.map (·.itemsAt "items")).getD []
      return left ++ " IN (" ++ (← commaList items printer.expression) ++ ")"
  | _ => do return left ++ " " ++ operator record ++ " " ++ (← printer.expression right)

def binary (record : Tree) : Printed := do
  let left ← printer.expression (← required record "lexpr")
  let right ← required record "rexpr"
  printer.rightHandSide record left right

def argument (tree : Tree) : Printed := do
  let text ← printer.expression tree
  return if tree.kind? = some "BoolExpr" then "(" ++ text ++ ")" else text

def boolean (record : Tree) : Printed := do
  let texts ← (record.itemsAt "args").mapM printer.argument
  return match record.textAt? "boolop" with
    | some "NOT_EXPR" => "NOT " ++ Text.join "" texts
    | some "OR_EXPR" => Text.join " OR " texts
    | _ => Text.join " AND " texts

def nullTest (record : Tree) : Printed := do
  let text ← printer.expression (← required record "arg")
  return match record.textAt? "nulltesttype" with
    | some "IS_NOT_NULL" => text ++ " IS NOT NULL"
    | _ => text ++ " IS NULL"

def call (record : Tree) : Printed := do
  let arguments ←
    if record.flagAt "agg_star" then pure "*"
    else commaList (record.itemsAt "args") printer.expression
  return nameList (record.itemsAt "funcname") "." ++ "(" ++ arguments ++ ")"

def cast (record : Tree) : Printed := do
  let text ← printer.expression (← required record "arg")
  let type ← required record "typeName"
  return text ++ "::" ++ printer.typeName type

def subquery (record : Tree) : Printed := do
  let query ← printer.statement (← required record "subselect")
  match record.textAt? "subLinkType" with
  | some "EXISTS_SUBLINK" => return "EXISTS (" ++ query ++ ")"
  | some "ANY_SUBLINK" => do
      let text ← printer.expression (← required record "testexpr")
      return text ++ " IN (" ++ query ++ ")"
  | _ => return "(" ++ query ++ ")"

/-- The record of an output column: a value, a name, or both. -/
def targetRecord (record : Tree) : Printed :=
  match record.get? "val", record.textAt? "name" with
  | some value, some name => do return (← printer.expression value) ++ " AS " ++ name
  | some value, none => printer.expression value
  | none, some name => .ok name
  | none, none => .error (cannotPrint "empty ResTarget")

def expressionOf (kind : String) (record : Tree) : Printed :=
  match kind with
  | "ColumnRef" => .ok (Text.join "." ((record.itemsAt "fields").map columnPart))
  | "A_Const" => constant record
  | "A_Expr" => printer.binary record
  | "BoolExpr" => printer.boolean record
  | "NullTest" => printer.nullTest record
  | "FuncCall" => printer.call record
  | "ParamRef" => .ok ("$" ++ toString (((record.get? "number").bind (·.int?)).getD 0))
  | "TypeCast" => printer.cast record
  | "SubLink" => printer.subquery record
  | "ResTarget" => printer.targetRecord record
  | other => .error (cannotPrint other)

def expressionLevel (tree : Tree) : Printed :=
  match tree.tagged? with
  | some (kind, record) => printer.expressionOf kind record
  | none => .error (cannotPrint "untagged expression")

end Printer

end SqlTree.Print
