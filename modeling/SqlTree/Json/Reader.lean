import SqlTree.Json.Number
import SqlTree.Tree.Basic

/-!
# Reading JSON

The reader accepts strict JSON: four blank characters, no comments, no trailing commas, no control
characters inside strings, and no half of a surrogate pair. Containers may nest at most
`nestingLimit` deep.

What is built from a text is left to a `Target`, which says how the values of a result type are
made. One reader thus serves several result types. An object hands its pairs to the target in the
order of the text, repetitions included.

The recursion runs on fuel. Of any two calls in a row at least one takes a character off the text,
so twice the length of the text is enough, and `read` supplies it.
-/

namespace SqlTree.Json

/-- How the values of a result type are made from the parts of a text. -/
structure Target (α : Type) where
  null : α
  bool : Bool → α
  number : Number → α
  text : String → α
  list : List α → α
  object : List (String × α) → α

def nestingLimit : Nat := 127

def isJsonBlank (character : Char) : Bool :=
  character == ' ' || character == '\t' || character == '\n' || character == '\r'

def skipBlanks (text : List Char) : List Char := text.dropWhile isJsonBlank

/-! ## Strings -/

def hexValue? (character : Char) : Option Nat :=
  if character.isDigit then some (character.toNat - '0'.toNat)
  else if 'a' ≤ character ∧ character ≤ 'f' then some (character.toNat - 'a'.toNat + 10)
  else if 'A' ≤ character ∧ character ≤ 'F' then some (character.toNat - 'A'.toNat + 10)
  else none

def hexQuad? (first second third fourth : Char) : Option Nat := do
  let first ← hexValue? first
  let second ← hexValue? second
  let third ← hexValue? third
  let fourth ← hexValue? fourth
  some (((first * 16 + second) * 16 + third) * 16 + fourth)

def unescape? (letter : Char) : Option Char :=
  match letter with
  | '"' => some '"'
  | '\\' => some '\\'
  | '/' => some '/'
  | 'b' => some '\x08'
  | 'f' => some '\x0c'
  | 'n' => some '\n'
  | 'r' => some '\r'
  | 't' => some '\t'
  | _ => none

/-- A code point that is no half of a surrogate pair. -/
def scalar? (code : Nat) : Option Char :=
  if 0xD800 ≤ code ∧ code ≤ 0xDFFF then none else some (Char.ofNat code)

def surrogatePair? (high low : Nat) : Option Char :=
  if 0xD800 ≤ high ∧ high ≤ 0xDBFF ∧ 0xDC00 ≤ low ∧ low ≤ 0xDFFF then
    some (Char.ofNat (0x10000 + (high - 0xD800) * 0x400 + (low - 0xDC00)))
  else none

def stringChar? (text : List Char) : Option (Char × List Char) :=
  match text with
  | '\\' :: 'u' :: a :: b :: c :: d :: rest => do
      let code ← hexQuad? a b c d
      match scalar? code with
      | some character => some (character, rest)
      | none =>
          match rest with
          | '\\' :: 'u' :: e :: f :: g :: h :: rest => do
              let low ← hexQuad? e f g h
              let character ← surrogatePair? code low
              some (character, rest)
          | _ => none
  | '\\' :: letter :: rest => (unescape? letter).map fun character => (character, rest)
  | character :: rest => if character.toNat < 0x20 then none else some (character, rest)
  | [] => none

/-- Reads the characters of a string up to and including the closing quote. -/
def stringBody : Nat → List Char → Option (List Char × List Char)
  | 0, _ => none
  | fuel + 1, text =>
      match text with
      | '"' :: rest => some ([], rest)
      | _ => do
          let (character, rest) ← stringChar? text
          let (characters, rest) ← stringBody fuel rest
          some (character :: characters, rest)

def readString (fuel : Nat) (text : List Char) : Option (String × List Char) :=
  (stringBody fuel text).map fun (characters, rest) => (String.ofList characters, rest)

def readKey (fuel : Nat) (text : List Char) : Option (String × List Char) :=
  match skipBlanks text with
  | '"' :: rest => do
      let (key, rest) ← readString fuel rest
      match skipBlanks rest with
      | ':' :: rest => some (key, rest)
      | _ => none
  | _ => none

/-! ## Values -/

variable {α : Type}

mutual
/-- Reads a value, with `room` for that many more levels of containers. -/
def readValue (target : Target α) : Nat → Nat → List Char → Option (α × List Char)
  | 0, _, _ => none
  | fuel + 1, room, text =>
      match skipBlanks text with
      | 'n' :: 'u' :: 'l' :: 'l' :: rest => some (target.null, rest)
      | 't' :: 'r' :: 'u' :: 'e' :: rest => some (target.bool true, rest)
      | 'f' :: 'a' :: 'l' :: 's' :: 'e' :: rest => some (target.bool false, rest)
      | '"' :: rest => (readString fuel rest).map fun (value, rest) => (target.text value, rest)
      | '[' :: rest =>
          match room with
          | 0 => none
          | room + 1 =>
              match skipBlanks rest with
              | ']' :: rest => some (target.list [], rest)
              | rest =>
                  (readItems target fuel room rest).map fun (items, rest) =>
                    (target.list items, rest)
      | '\x7b' :: rest =>
          match room with
          | 0 => none
          | room + 1 =>
              match skipBlanks rest with
              | '\x7d' :: rest => some (target.object [], rest)
              | rest =>
                  (readFields target fuel room rest).map fun (fields, rest) =>
                    (target.object fields, rest)
      | rest => (readNumber rest).map fun (value, rest) => (target.number value, rest)
termination_by structural fuel => fuel

def readItems (target : Target α) : Nat → Nat → List Char → Option (List α × List Char)
  | 0, _, _ => none
  | fuel + 1, room, text => do
      let (item, rest) ← readValue target fuel room text
      match skipBlanks rest with
      | ']' :: rest => some ([item], rest)
      | ',' :: rest =>
          let (items, rest) ← readItems target fuel room rest
          some (item :: items, rest)
      | _ => none
termination_by structural fuel => fuel

def readFields (target : Target α) :
    Nat → Nat → List Char → Option (List (String × α) × List Char)
  | 0, _, _ => none
  | fuel + 1, room, text => do
      let (key, rest) ← readKey fuel text
      let (value, rest) ← readValue target fuel room rest
      match skipBlanks rest with
      | '\x7d' :: rest => some ([(key, value)], rest)
      | ',' :: rest =>
          let (fields, rest) ← readFields target fuel room rest
          some ((key, value) :: fields, rest)
      | _ => none
termination_by structural fuel => fuel
end

/-- Fuel that is enough to read a text. -/
def fuelFor (text : List Char) : Nat := 2 * text.length + 2

def readWithin (limit : Nat) (target : Target α) (text : String) : Option α := do
  let (value, rest) ← readValue target (fuelFor text.toList) limit text.toList
  match skipBlanks rest with
  | [] => some value
  | _ :: _ => none

def read (target : Target α) (text : String) : Option α := readWithin nestingLimit target text

end SqlTree.Json

namespace SqlTree

/-- Trees as the result of reading: a repeated name keeps its first place and its last value. -/
def Tree.target : Json.Target Tree where
  null := .null
  bool := .bool
  number := .number
  text := .text
  list := .list
  object pairs := .object (Fields.ofPairs pairs)

def Tree.ofJson? (text : String) : Option Tree := Json.read Tree.target text

end SqlTree
