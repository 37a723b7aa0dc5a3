import SqlTree.Wire.Word

/-!
# Records on the wire

Errors and tokens are exchanged as JSON records. A record is written with its fields in a fixed
order. It is read from an object, whose fields may come in any order and must each occur once, or
from a list of the fields in their order. An object may have further fields; these need only be
well-formed, at whatever depth and whatever numbers they hold.
-/

namespace SqlTree.Wire

/-! ## Passing over a value -/

def skipChar? (text : List Char) : Option (List Char) :=
  match text with
  | '\\' :: 'u' :: a :: b :: c :: d :: rest => (Json.hexQuad? a b c d).map fun _ => rest
  | '\\' :: letter :: rest => (Json.unescape? letter).map fun _ => rest
  | character :: rest => if character.toNat < 0x20 then none else some rest
  | [] => none

def skipString : Nat → List Char → Option (List Char)
  | 0, _ => none
  | fuel + 1, text =>
      match text with
      | '"' :: rest => some rest
      | _ => (skipChar? text).bind (skipString fuel)

mutual
def skipValue : Nat → List Char → Option (List Char)
  | 0, _ => none
  | fuel + 1, text =>
      match Json.skipBlanks text with
      | 'n' :: 'u' :: 'l' :: 'l' :: rest => some rest
      | 't' :: 'r' :: 'u' :: 'e' :: rest => some rest
      | 'f' :: 'a' :: 'l' :: 's' :: 'e' :: rest => some rest
      | '"' :: rest => skipString fuel rest
      | '[' :: rest =>
          match Json.skipBlanks rest with
          | ']' :: rest => some rest
          | rest => skipItems fuel rest
      | '\x7b' :: rest =>
          match Json.skipBlanks rest with
          | '\x7d' :: rest => some rest
          | rest => skipFields fuel rest
      | rest => (Json.literal? rest).map (·.2)
termination_by structural fuel => fuel

def skipItems : Nat → List Char → Option (List Char)
  | 0, _ => none
  | fuel + 1, text => do
      let rest ← skipValue fuel text
      match Json.skipBlanks rest with
      | ']' :: rest => some rest
      | ',' :: rest => skipItems fuel rest
      | _ => none
termination_by structural fuel => fuel

def skipFields : Nat → List Char → Option (List Char)
  | 0, _ => none
  | fuel + 1, text =>
      match Json.skipBlanks text with
      | '"' :: rest => do
          let rest ← skipString fuel rest
          match Json.skipBlanks rest with
          | ':' :: rest => do
              let rest ← skipValue fuel rest
              match Json.skipBlanks rest with
              | '\x7d' :: rest => some rest
              | ',' :: rest => skipFields fuel rest
              | _ => none
          | _ => none
      | _ => none
termination_by structural fuel => fuel
end

/-! ## Reading a record -/

inductive FieldType where
  | text
  | natural
  | word
  deriving DecidableEq, Repr

abbrev Shape : Type := List (String × FieldType)

def readField (type : FieldType) (fuel : Nat) (text : List Char) : Option (Tree × List Char) :=
  match type with
  | .text =>
      match Json.skipBlanks text with
      | '"' :: rest => (Json.readString fuel rest).map fun (value, rest) => (.text value, rest)
      | _ => none
  | .natural =>
      match Json.readNumber (Json.skipBlanks text) with
      | some (.int value, rest) => if value < 0 then none else some (.number (.int value), rest)
      | _ => none
  | .word => (readWord fuel text).map fun (word, rest) => (.text word, rest)

def readInOrder (fuel : Nat) : Shape → List Char → Option (List Tree × List Char)
  | [], _ => none
  | [(_, type)], text => do
      let (value, rest) ← readField type fuel text
      match Json.skipBlanks rest with
      | ']' :: rest => some ([value], rest)
      | _ => none
  | (_, type) :: next :: shape, text => do
      let (value, rest) ← readField type fuel text
      match Json.skipBlanks rest with
      | ',' :: rest =>
          let (values, rest) ← readInOrder fuel (next :: shape) rest
          some (value :: values, rest)
      | _ => none

/-- Reads the fields of an object and the closing brace, given the fields that were read before. -/
def readNamed (shape : Shape) :
    Nat → List (String × Tree) → List Char → Option (List (String × Tree) × List Char)
  | 0, _, _ => none
  | fuel + 1, found, text => do
      let (key, rest) ← Json.readKey fuel text
      let (found, rest) ←
        match Fields.get? key shape with
        | some type =>
            if Fields.contains key found then none
            else (readField type fuel rest).map fun (value, rest) => (found ++ [(key, value)], rest)
        | none => (skipValue fuel rest).map fun rest => (found, rest)
      match Json.skipBlanks rest with
      | '\x7d' :: rest => some (found, rest)
      | ',' :: rest => readNamed shape fuel found rest
      | _ => none

/-- The values of the fields of a record, in the order of its shape. -/
def readRecord (shape : Shape) (text : String) : Option (List Tree) := do
  let fuel := Json.fuelFor text.toList
  let (values, rest) ←
    match Json.skipBlanks text.toList with
    | '[' :: rest => readInOrder fuel shape rest
    | '\x7b' :: rest => do
        let (found, rest) ← readNamed shape fuel [] rest
        let values ← shape.mapM fun (key, _) => Fields.get? key found
        some (values, rest)
    | _ => none
  match Json.skipBlanks rest with
  | [] => some values
  | _ :: _ => none

def naturalField (key : String) (value : Nat) : String × Tree := (key, .number (.int value))

def wordField {ε : Type} [Worded ε] (key : String) (value : ε) : String × Tree :=
  (key, .text (Worded.word value))

end SqlTree.Wire

namespace SqlTree

/-! ## The records -/

namespace ParseError

def toJson (error : ParseError) : String :=
  (Tree.object [("message", .text error.message), Wire.naturalField "cursor_pos" error.position,
    Wire.wordField "kind" error.fault]).toJson

def ofJson? (text : String) : Option ParseError := do
  let values ← Wire.readRecord [("message", .text), ("cursor_pos", .natural), ("kind", .word)] text
  match values with
  | [.text message, .number (.int position), .text word] =>
      (Wire.ofWord? word).map fun fault => ⟨message, position.toNat, fault⟩
  | _ => none

end ParseError

namespace PrintError

def toJson (error : PrintError) : String :=
  (Tree.object [("message", .text error.message)]).toJson

def ofJson? (text : String) : Option PrintError := do
  let values ← Wire.readRecord [("message", .text)] text
  match values with
  | [.text message] => some ⟨message⟩
  | _ => none

end PrintError

namespace ScanError

def toJson (error : ScanError) : String :=
  (Tree.object [("message", .text error.message), Wire.naturalField "cursor_pos" error.position,
    Wire.wordField "kind" error.fault]).toJson

def ofJson? (text : String) : Option ScanError := do
  let values ← Wire.readRecord [("message", .text), ("cursor_pos", .natural), ("kind", .word)] text
  match values with
  | [.text message, .number (.int position), .text word] =>
      (Wire.ofWord? word).map fun fault => ⟨message, position.toNat, fault⟩
  | _ => none

end ScanError

namespace Token

def toJson (token : Token) : String :=
  (Tree.object [("kind", .text token.kind), ("text", .text token.text),
    Wire.naturalField "start" token.start, Wire.naturalField "end" token.stop,
    Wire.wordField "keyword" token.keyword]).toJson

def ofJson? (text : String) : Option Token := do
  let values ←
    Wire.readRecord
      [("kind", .text), ("text", .text), ("start", .natural), ("end", .natural),
        ("keyword", .word)] text
  match values with
  | [.text kind, .text content, .number (.int start), .number (.int stop), .text word] =>
      (Wire.ofWord? word).map fun keyword => ⟨kind, content, start.toNat, stop.toNat, keyword⟩
  | _ => none

end Token

end SqlTree
