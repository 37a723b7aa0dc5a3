import SqlTree.Node.Relation
import SqlTree.Statement.Query

/-!
# SELECT

A SELECT starts from its output columns and grows clause by clause. Each clause has an update that
adds to it and, where it helps, one that replaces it by a function of what is there. A set operation
makes a new statement whose two arms are the records of the operands.

The field `limitOption` says whether there is a limit, so every update of the limit writes it too.
-/

namespace SqlTree

inductive JoinType where
  | inner
  | left
  | right
  | full
  deriving DecidableEq, Repr, Inhabited

def JoinType.word : JoinType → String
  | .inner => "JOIN_INNER"
  | .left => "JOIN_LEFT"
  | .right => "JOIN_RIGHT"
  | .full => "JOIN_FULL"

inductive SetOperation where
  | union
  | except
  | intersect
  deriving DecidableEq, Repr

def SetOperation.word : SetOperation → String
  | .union => "SETOP_UNION"
  | .except => "SETOP_EXCEPT"
  | .intersect => "SETOP_INTERSECT"

inductive LockStrength where
  | update
  | share
  deriving DecidableEq, Repr

def LockStrength.word : LockStrength → String
  | .update => "LCS_FORUPDATE"
  | .share => "LCS_FORSHARE"

structure Select where
  query : Query

namespace Select

def start (columns : List Operand) : Select :=
  let targets := columns.map Node.target
  ⟨.ofKind .select <| .object <|
    (if targets.isEmpty then [] else [("targetList", .list targets)]) ++
      [("limitOption", .text "LIMIT_OPTION_DEFAULT"), ("op", .text "SETOP_NONE")]⟩

/-! ## Output columns -/

def columns (select : Select) (columns : List Operand) : Select :=
  ⟨select.query.append "targetList" (columns.map Node.target)⟩

def mapColumns (select : Select) (change : List Tree → List Tree) : Select :=
  ⟨select.query.mapList "targetList" change⟩

def returning (select : Select) (columns : List Operand) : Select := select.columns columns

def distinct (select : Select) : Select :=
  ⟨select.query.set "distinctClause" (.list [.object []])⟩

def distinctOn (select : Select) (expressions : List Operand) : Select :=
  ⟨select.query.setList "distinctClause" (expressions.map Operand.reference)⟩

/-! ## Tables -/

def fromTable (select : Select) (table : TableRef) : Select :=
  ⟨select.query.append "fromClause" [table.item]⟩

def mapFrom (select : Select) (change : List Tree → List Tree) : Select :=
  ⟨select.query.mapList "fromClause" change⟩

def joinNode (type : JoinType) (left right : Tree) (condition : Option Tree) : Tree :=
  .node "JoinExpr" <| .object <|
    [("jointype", .text type.word), ("larg", left), ("rarg", right)] ++
      (match condition with
        | some condition => [("quals", condition)]
        | none => [])

/-- Joins a table to the last item of FROM, which becomes the left arm. -/
def join (select : Select) (type : JoinType) (table : TableRef) (condition : Option Tree) :
    Except Error Select :=
  let items := select.query.record.itemsAt "fromClause"
  match items.getLast? with
  | none => .error .nothingToJoin
  | some last =>
      .ok ⟨select.query.setList "fromClause"
        (items.dropLast ++ [joinNode type last table.item condition])⟩

/-! ## Conditions -/

def filter (select : Select) (condition : Option Tree) : Select :=
  ⟨select.query.restrict "whereClause" condition⟩

def mapFilter (select : Select) (change : Option Tree → Option Tree) : Select :=
  ⟨select.query.mapOption "whereClause" change⟩

def having (select : Select) (condition : Option Tree) : Select :=
  ⟨select.query.restrict "havingClause" condition⟩

def mapHaving (select : Select) (change : Option Tree → Option Tree) : Select :=
  ⟨select.query.mapOption "havingClause" change⟩

/-! ## Grouping and order -/

def groupBy (select : Select) (expressions : List Operand) : Select :=
  ⟨select.query.append "groupClause" (expressions.map Operand.reference)⟩

def mapGroupBy (select : Select) (change : List Tree → List Tree) : Select :=
  ⟨select.query.mapList "groupClause" change⟩

/-- An item of ORDER BY. A sort item stays as it is, and others get the default order. -/
def orderItem (operand : Operand) : Tree :=
  let node := operand.reference
  if node.kind? = some "SortBy" then node else Node.sortItem (.node node) .default .default

def orderBy (select : Select) (items : List Operand) : Select :=
  ⟨select.query.append "sortClause" (items.map orderItem)⟩

def mapOrderBy (select : Select) (change : List Tree → List Tree) : Select :=
  ⟨select.query.mapList "sortClause" change⟩

/-! ## Limits -/

def limitWord (record : Tree) : String :=
  if (record.get? "limitCount").isSome then "LIMIT_OPTION_COUNT" else "LIMIT_OPTION_DEFAULT"

def mapLimit (select : Select) (change : Option Tree → Option Tree) : Select :=
  let query := select.query.mapOption "limitCount" change
  ⟨query.set "limitOption" (.text (limitWord query.record))⟩

def limit (select : Select) (count : Operand) : Select :=
  select.mapLimit fun _ => some count.literal

def mapOffset (select : Select) (change : Option Tree → Option Tree) : Select :=
  ⟨select.query.mapOption "limitOffset" change⟩

def offset (select : Select) (count : Operand) : Select :=
  select.mapOffset fun _ => some count.literal

/-! ## Common table expressions -/

/-- A SELECT that does not say what set operation it is gets none. -/
def completeBody (body : Tree) : Tree :=
  match body.recordOf? "SelectStmt" with
  | some record =>
      if (record.get? "op").isNone then .node "SelectStmt" (record.set "op" (.text "SETOP_NONE"))
      else body
  | none => body

def tableExpression (name : String) (body : Tree) : Tree :=
  .node "CommonTableExpr" <| .object
    [("ctename", .text name), ("ctequery", completeBody body),
      ("ctematerialized", .text "CTEMaterializeDefault")]

/-- Adds a common table expression. One that is recursive marks the whole clause so. -/
def withTable (select : Select) (name : String) (body : Tree) (isRecursive : Bool) : Select :=
  let clause := (select.query.record.get? "withClause").getD .null
  let extended := clause.set "ctes" (.list (clause.itemsAt "ctes" ++ [tableExpression name body]))
  ⟨select.query.set "withClause"
    (if isRecursive then extended.set "recursive" (.bool true) else extended)⟩

/-! ## Set operations -/

/-- The record of a SELECT node; another tree is taken as the record. -/
def armRecord (operand : Tree) : Tree := (operand.recordOf? "SelectStmt").getD operand

def combine (select : Select) (operation : SetOperation) (all : Bool) (other : Tree) : Select :=
  ⟨select.query.withRecord <| .object <|
    ("op", .text operation.word) :: (if all then [("all", .bool true)] else []) ++
      [("larg", select.query.record), ("rarg", armRecord other),
        ("limitOption", .text "LIMIT_OPTION_DEFAULT")]⟩

/-! ## Locks -/

def lockNode (strength : LockStrength) : Tree :=
  .node "LockingClause" <| .object
    [("strength", .text strength.word), ("waitPolicy", .text "LockWaitBlock")]

def lock (select : Select) (strength : LockStrength) : Select :=
  ⟨select.query.append "lockingClause" [lockNode strength]⟩

/-! ## Looking at a SELECT -/

def targetList (select : Select) : List Tree := select.query.record.itemsAt "targetList"

def fromClause (select : Select) : List Tree := select.query.record.itemsAt "fromClause"

def whereClause? (select : Select) : Option Tree := select.query.record.get? "whereClause"

/-- The name of an output column: its own, or the last part of the column that it refers to. -/
def outputName? (target : Tree) : Option String := do
  let record ← target.record?
  match record.textAt? "name" with
  | some name => some name
  | none =>
      let column ← (← record.get? "val").recordOf? "ColumnRef"
      (Node.columnNames column).getLast?

def columnNames (select : Select) : List String := select.targetList.filterMap outputName?

end Select

end SqlTree
