import SqlTree.Parser
import SqlTree.Text.Blank

/-!
# Scanning words

The scanner cuts a text at its blanks. Every maximal run of other characters is a token. Three words
are keywords, in any mixture of cases; all other tokens are identifiers.
-/

namespace SqlTree.Scanner

def keywords : List String := ["SELECT", "FROM", "WHERE"]

def reservedCode : Int := 4

def upperCase (text : String) : String := String.ofList (text.toList.map Char.toUpper)

/-- The token for the word between two offsets of the text. -/
def token (source : String) (start stop : Nat) : Token :=
  let word := upperCase ((sliceBytes? source start stop).getD "")
  if keywords.contains word then .ofSource source word start stop reservedCode
  else .ofSource source "IDENT" start stop 0

/--
The tokens of the text from an offset on, in one pass over the characters behind it. A word that
is open there is known by the offset where it starts, and the next blank ends it.
-/
def tokensFrom (source : String) (opened : Option Nat) (offset : Nat) : List Char → List Token
  | [] => []
  | character :: rest =>
      let next := offset + character.utf8Size
      match Text.isBlank character, opened with
      | false, none => tokensFrom source (some offset) next rest
      | true, some start => token source start offset :: tokensFrom source none next rest
      | _, _ => tokensFrom source opened next rest

/-- The blank behind the text ends a word that reaches to the end of the text. -/
def tokens (source : String) : List Token := tokensFrom source none 0 (source.toList ++ [' '])

end SqlTree.Scanner
