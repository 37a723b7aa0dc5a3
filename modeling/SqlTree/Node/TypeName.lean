import SqlTree.Node.Operand
import SqlTree.Text.Integer

/-!
# Types of columns

A type is written as a name with optional modifiers in parentheses, such as `numeric(10, 2)` or
`pg_catalog.int8`. Modifiers that are integers become integer constants and others become string
constants. A text whose parenthesis is not closed at its end is taken as a name.
-/

namespace SqlTree.Node

def typeName (name : String) (modifiers : List Int) : Tree :=
  typeRecord name (modifiers.map intConstant)

def typeModifier (text : String) : Tree :=
  match Text.int64? text with
  | some value => intConstant value
  | none => textConstant text

/-- The constants of the modifiers between the parentheses. Empty ones are dropped. -/
def typeModifiers (text : String) : List Tree :=
  (((Text.split ',' text).map Text.trim).filter (· ≠ "")).map typeModifier

def writtenType (written : String) : Tree :=
  let written := Text.trim written
  match Text.splitFirst? '(' written with
  | none => typeRecord written []
  | some (name, rest) =>
      match Text.dropLast? ')' (Text.trimEnd rest) with
      | none => typeRecord written []
      | some inner => typeRecord (Text.trim name) (typeModifiers inner)

end SqlTree.Node
