import SqlTree.Text.Invisible

/-!
# Quoted text in messages

A message quotes a text between double quotes so that every character can be told: quotes and
backslashes are escaped, some controls have a letter, and characters that cannot be seen are shown
by their code point in hexadecimal.
-/

namespace SqlTree.Text

def quotedChar (character : Char) : List Char :=
  match character with
  | '\x00' => ['\\', '0']
  | '\t' => ['\\', 't']
  | '\r' => ['\\', 'r']
  | '\n' => ['\\', 'n']
  | '\\' => ['\\', '\\']
  | '"' => ['\\', '"']
  | _ =>
      if isInvisible character then
        ['\\', 'u', '\x7b'] ++ Nat.toDigits 16 character.toNat ++ ['\x7d']
      else [character]

def quoted (text : String) : String :=
  String.ofList ('"' :: text.toList.flatMap quotedChar ++ ['"'])

end SqlTree.Text
