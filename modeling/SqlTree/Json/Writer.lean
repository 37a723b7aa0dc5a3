import SqlTree.Decimal.Layout
import SqlTree.Tree.Basic

/-!
# Writing JSON

A tree is written compactly: no blanks, fields in their order, and every character as itself unless
JSON forbids it inside a string. A quote, a backslash and the five controls with a letter of their
own are written with a backslash; other controls below the space are written as four hexadecimal
digits in lower case.

Each writer puts its characters in front of a rest that is given to it. A text is thus built once,
from its end, however deep the tree is. `writeTree_append` says that the characters of a tree do not
depend on the rest.
-/

namespace SqlTree.Json

/--
Floating-point numbers are written with the fewest digits that read back. Those from `1e-5` up to,
but not including, `1e16` are written positionally, the others with a signed exponent; of two
equally near decimals the even one is taken.
-/
def numberLayout : Layout where
  isPositional exponent := -5 ≤ exponent && exponent < 16
  positiveMark := "e+"
  negativeMark := "e-"
  tie := .toEven

def hexDigit (digit : Nat) : Char := Nat.digitChar digit

def escapeChar (character : Char) : List Char :=
  if character = '"' then ['\\', '"']
  else if character = '\\' then ['\\', '\\']
  else if character = '\x08' then ['\\', 'b']
  else if character = '\x0c' then ['\\', 'f']
  else if character = '\n' then ['\\', 'n']
  else if character = '\r' then ['\\', 'r']
  else if character = '\t' then ['\\', 't']
  else if character.toNat < 0x20 then
    ['\\', 'u', '0', '0', hexDigit (character.toNat / 16), hexDigit (character.toNat % 16)]
  else [character]

def writeString (text : String) (rest : List Char) : List Char :=
  '"' :: (text.toList.flatMap escapeChar ++ '"' :: rest)

def writeInt (value : Int) : List Char :=
  if value < 0 then '-' :: Nat.toDigits 10 value.natAbs else Nat.toDigits 10 value.natAbs

def writeNumber : Number → List Char
  | .int value => writeInt value
  | .float value => numberLayout.write value

def writeBool (value : Bool) : List Char :=
  if value then ['t', 'r', 'u', 'e'] else ['f', 'a', 'l', 's', 'e']

mutual
def writeTree (tree : Tree) (rest : List Char) : List Char :=
  match tree with
  | .null => 'n' :: 'u' :: 'l' :: 'l' :: rest
  | .bool value => writeBool value ++ rest
  | .number value => writeNumber value ++ rest
  | .text value => writeString value rest
  | .list items => '[' :: writeItems items (']' :: rest)
  | .object fields => '\x7b' :: writeFields fields ('\x7d' :: rest)
termination_by structural tree

def writeItems (items : List Tree) (rest : List Char) : List Char :=
  match items with
  | [] => rest
  | item :: more =>
      writeTree item (match more with | [] => rest | _ :: _ => ',' :: writeItems more rest)
termination_by structural items

def writeFields (fields : List (String × Tree)) (rest : List Char) : List Char :=
  match fields with
  | [] => rest
  | (key, value) :: more =>
      writeString key (':' :: writeTree value
        (match more with | [] => rest | _ :: _ => ',' :: writeFields more rest))
termination_by structural fields
end

theorem writeString_append (text : String) (rest more : List Char) :
    writeString text (rest ++ more) = writeString text rest ++ more := by
  simp [writeString]

mutual
/-- The characters of a tree do not depend on the rest behind them. -/
theorem writeTree_append (tree : Tree) (rest more : List Char) :
    writeTree tree (rest ++ more) = writeTree tree rest ++ more := by
  match tree with
  | .null => simp [writeTree]
  | .bool _ => simp [writeTree]
  | .number _ => simp [writeTree]
  | .text value => simp [writeTree, writeString_append]
  | .list items =>
      have := writeItems_append items (']' :: rest) more
      simpa [writeTree] using this
  | .object fields =>
      have := writeFields_append fields ('\x7d' :: rest) more
      simpa [writeTree] using this

theorem writeItems_append (items : List Tree) (rest more : List Char) :
    writeItems items (rest ++ more) = writeItems items rest ++ more := by
  match items with
  | [] => simp [writeItems]
  | [item] => simpa [writeItems] using writeTree_append item rest more
  | item :: next :: others =>
      have tail := writeItems_append (next :: others) rest more
      have whole := writeTree_append item (',' :: writeItems (next :: others) rest) more
      rw [writeItems, writeItems, tail]
      exact whole

theorem writeFields_append (fields : List (String × Tree)) (rest more : List Char) :
    writeFields fields (rest ++ more) = writeFields fields rest ++ more := by
  match fields with
  | [] => simp [writeFields]
  | [(key, value)] =>
      have whole := writeString_append key (':' :: writeTree value rest) more
      rw [writeFields, writeFields, writeTree_append value rest more]
      exact whole
  | (key, value) :: next :: others =>
      have tail := writeFields_append (next :: others) rest more
      have middle := writeTree_append value (',' :: writeFields (next :: others) rest) more
      have whole := writeString_append key
        (':' :: writeTree value (',' :: writeFields (next :: others) rest)) more
      rw [writeFields, writeFields, tail]
      exact (congrArg (fun text => writeString key (':' :: text)) middle).trans whole
end

end SqlTree.Json

namespace SqlTree

def Tree.toJson (tree : Tree) : String := String.ofList (Json.writeTree tree [])

end SqlTree
