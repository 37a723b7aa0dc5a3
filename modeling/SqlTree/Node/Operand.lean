import SqlTree.Decimal.Layout
import SqlTree.Node.Name

/-!
# Operands

An operand is a plain value or a node that is already built. Numbers and booleans become constants,
and nodes stay as they are. Text is read by position: on the left of an operator it names a column,
on the right of one it is a string constant.
-/

namespace SqlTree

/-- What an operator or a clause takes as an argument. -/
inductive Operand where
  | text (value : String)
  | int (value : Int)
  | float (value : Binary64)
  | bool (value : Bool)
  | null
  | node (tree : Tree)
  deriving Repr, Inhabited

namespace Node

def typeRecord (name : String) (modifiers : List Tree) : Tree :=
  .object <|
    ("names", dottedNames name) ::
      (if modifiers.isEmpty then [] else [("typmods", .list modifiers)]) ++
      [("typemod", .number (.int (-1)))]

def constant (field : String) (value : Tree) : Tree :=
  .node "A_Const" (.object [(field, .object [(field, value)])])

def textConstant (value : String) : Tree := constant "sval" (.text value)

def intConstant (value : Int) : Tree := constant "ival" (.number (.int value))

def boolConstant (value : Bool) : Tree := constant "boolval" (.bool value)

def nullConstant : Tree := .node "A_Const" (.object [("isnull", .bool true)])

/--
Numeric constants are written positionally with the fewest digits that read back, and always with a
fraction; of two equally near decimals the greater one is taken.
-/
def numericLayout : Layout where
  isPositional _ := true
  positiveMark := "e"
  negativeMark := "e-"
  tie := .upward

def specialText (value : Binary64) : String :=
  if value.isNaN then "NaN" else if value.isNegative then "-Infinity" else "Infinity"

/--
A numeric constant. There is no literal for NaN and the infinities, so they are written as a cast
of a string.
-/
def floatConstant (value : Binary64) : Tree :=
  if value.isFinite then constant "fval" (.text (String.ofList (numericLayout.write value)))
  else
    .node "TypeCast" <| .object
      [("arg", textConstant (specialText value)), ("typeName", typeRecord "float8" [])]

end Node

namespace Operand

/-- The node of an operand where text is a string constant. -/
def literal : Operand → Tree
  | .text value => Node.textConstant value
  | .int value => Node.intConstant value
  | .float value => Node.floatConstant value
  | .bool value => Node.boolConstant value
  | .null => Node.nullConstant
  | .node tree => tree

/-- The node of an operand where text names a column. -/
def reference : Operand → Tree
  | .text value => Node.column value
  | other => other.literal

end Operand

end SqlTree
