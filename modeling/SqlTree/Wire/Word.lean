import SqlTree.Json.Reader
import SqlTree.Json.Writer
import SqlTree.Parser
import SqlTree.Node.Item
import SqlTree.Statement.Kind
import SqlTree.Statement.Select

/-!
# Words of enumerations

Tools exchange the values of an enumeration as words. A word is written as a JSON string. It is
read from a string, or from an object whose only field is the word and holds null. The class of a
keyword may also be given by the code that a scanner has for it.
-/

namespace SqlTree

class Worded (ε : Type) where
  values : List ε
  word : ε → String

instance : Worded SortDirection where
  values := [.default, .ascending, .descending]
  word
    | .default => "Default"
    | .ascending => "Asc"
    | .descending => "Desc"

instance : Worded NullsOrder where
  values := [.default, .first, .last]
  word
    | .default => "Default"
    | .first => "First"
    | .last => "Last"

instance : Worded JoinType where
  values := [.inner, .left, .right, .full]
  word
    | .inner => "Inner"
    | .left => "Left"
    | .right => "Right"
    | .full => "Full"

instance : Worded StatementKind where
  values := [.select, .insert, .update, .delete, .createTable, .alterTable, .createIndex]
  word
    | .select => "Select"
    | .insert => "Insert"
    | .update => "Update"
    | .delete => "Delete"
    | .createTable => "CreateTable"
    | .alterTable => "AlterTable"
    | .createIndex => "CreateIndex"

instance : Worded KeywordClass where
  values := [.none, .unreserved, .columnName, .typeOrFunctionName, .reserved]
  word
    | .none => "none"
    | .unreserved => "unreserved"
    | .columnName => "col_name"
    | .typeOrFunctionName => "type_func_name"
    | .reserved => "reserved"

instance : Worded ParseFault where
  values := [.grammar, .semantic, .unknown]
  word
    | .grammar => "syntax"
    | .semantic => "semantic"
    | .unknown => "unknown"

instance : Worded ScanFault where
  values := [.grammar, .unknown]
  word
    | .grammar => "syntax"
    | .unknown => "unknown"

namespace Wire

variable {ε : Type} [Worded ε]

def ofWord? (word : String) : Option ε := Worded.values.find? fun value => Worded.word value == word

def wordJson (value : ε) : String := (Tree.text (Worded.word value)).toJson

/-- Reads a word, as a string or as the only field of an object. -/
def readWord (fuel : Nat) (text : List Char) : Option (String × List Char) :=
  match Json.skipBlanks text with
  | '"' :: rest => Json.readString fuel rest
  | '\x7b' :: rest => do
      let (word, rest) ← Json.readKey fuel rest
      match Json.skipBlanks rest with
      | 'n' :: 'u' :: 'l' :: 'l' :: rest =>
          match Json.skipBlanks rest with
          | '\x7d' :: rest => some (word, rest)
          | _ => none
      | _ => none
  | _ => none

def wordOfJson? (text : String) : Option ε := do
  let (word, rest) ← readWord (Json.fuelFor text.toList) text.toList
  match Json.skipBlanks rest with
  | [] => ofWord? word
  | _ :: _ => none

end Wire

/-- Does an integer fit 32 signed bits, as the codes of a scanner do? -/
def KeywordClass.isCode (code : Int) : Bool := -0x80000000 ≤ code && code < 0x80000000

def KeywordClass.ofCodeJson? (text : String) : Option KeywordClass :=
  match Tree.ofJson? text with
  | some (.number (.int code)) => if isCode code then some (ofCode code) else Option.none
  | _ => Option.none

end SqlTree
