import SqlTree.Node.Item

/-!
# Expressions and conditions

The first operand of an expression names a column when it is text, and every later one is a
constant then. `conjunction` and `disjunction` take any number of conditions. They drop those that
are absent, take the parts of a condition of their own operator, and add no node around a single
condition.
-/

namespace SqlTree.Expr

def binaryNode (kind operator : String) (left right : Tree) : Tree :=
  .node "A_Expr" <| .object
    [("kind", .text kind), ("name", Node.names [operator]), ("lexpr", left), ("rexpr", right)]

def binary (operator : String) (left right : Operand) : Tree :=
  binaryNode "AEXPR_OP" operator left.reference right.literal

def equal (left right : Operand) : Tree := binary "=" left right

def notEqual (left right : Operand) : Tree := binary "<>" left right

def greater (left right : Operand) : Tree := binary ">" left right

def greaterOrEqual (left right : Operand) : Tree := binary ">=" left right

def less (left right : Operand) : Tree := binary "<" left right

def lessOrEqual (left right : Operand) : Tree := binary "<=" left right

def add (left right : Operand) : Tree := binary "+" left right

def subtract (left right : Operand) : Tree := binary "-" left right

def multiply (left right : Operand) : Tree := binary "*" left right

def divide (left right : Operand) : Tree := binary "/" left right

def like (operand pattern : Operand) : Tree :=
  binaryNode "AEXPR_LIKE" "~~" operand.reference pattern.literal

def likeIgnoringCase (operand pattern : Operand) : Tree :=
  binaryNode "AEXPR_ILIKE" "~~*" operand.reference pattern.literal

def between (operand low high : Operand) : Tree :=
  binaryNode "AEXPR_BETWEEN" "BETWEEN" operand.reference (Node.list [low.literal, high.literal])

def isIn (operand : Operand) (values : List Operand) : Tree :=
  binaryNode "AEXPR_IN" "=" operand.reference (Node.list (values.map Operand.literal))

/-! ## Boolean structure -/

def boolean (operator : String) (arguments : List Tree) : Tree :=
  .node "BoolExpr" (.object [("boolop", .text operator), ("args", .list arguments)])

/-- What a condition contributes under an operator: its parts if it is of that operator. -/
def parts (operator : String) (condition : Tree) : List Tree :=
  match condition.recordOf? "BoolExpr" with
  | some record =>
      if record.textAt? "boolop" = some operator then record.itemsAt "args" else [condition]
  | none => [condition]

/-- Combines the conditions that are present under one operator. -/
def combine (operator : String) (conditions : List (Option Tree)) : Option Tree :=
  match (conditions.filterMap id).flatMap (parts operator) with
  | [] => none
  | [condition] => some condition
  | arguments => some (boolean operator arguments)

def conjunction (conditions : List (Option Tree)) : Option Tree := combine "AND_EXPR" conditions

def disjunction (conditions : List (Option Tree)) : Option Tree := combine "OR_EXPR" conditions

def negation (operand : Operand) : Tree := boolean "NOT_EXPR" [operand.reference]

def isNotIn (operand : Operand) (values : List Operand) : Tree :=
  negation (.node (isIn operand values))

/-! ## Tests and subqueries -/

def nullTest (test : String) (operand : Operand) : Tree :=
  .node "NullTest" (.object [("arg", operand.reference), ("nulltesttype", .text test)])

def isNull (operand : Operand) : Tree := nullTest "IS_NULL" operand

def isNotNull (operand : Operand) : Tree := nullTest "IS_NOT_NULL" operand

def rowExists (query : Tree) : Tree :=
  .node "SubLink" (.object [("subLinkType", .text "EXISTS_SUBLINK"), ("subselect", query)])

def isInQuery (operand : Operand) (query : Tree) : Tree :=
  .node "SubLink" <| .object
    [("subLinkType", .text "ANY_SUBLINK"), ("testexpr", operand.reference), ("subselect", query)]

end SqlTree.Expr
