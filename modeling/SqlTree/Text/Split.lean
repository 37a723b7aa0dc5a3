import SqlTree.Text.Blank

/-!
# Splitting and trimming

Names are split at dots, lists of modifiers at commas, and blanks around either are dropped. The
functions work on lists of characters, where they are plain recursions; each has a form on strings
that the rest of the library uses.
-/

namespace SqlTree.Text

/-- The pieces between separators. There is one piece more than there are separators. -/
def splitChars (separator : Char) : List Char → List (List Char)
  | [] => [[]]
  | character :: rest =>
      if character = separator then [] :: splitChars separator rest
      else
        match splitChars separator rest with
        | [] => [[character]]
        | piece :: pieces => (character :: piece) :: pieces

theorem length_splitChars (separator : Char) (characters : List Char) :
    (splitChars separator characters).length = characters.count separator + 1 := by
  induction characters with
  | nil => rfl
  | cons character rest ih =>
      by_cases same : character = separator
      · simp [splitChars, same, ih]
      · rw [List.count_cons_of_ne same, ← ih]
        simp only [splitChars, same, if_false]
        split <;> simp_all

def split (separator : Char) (text : String) : List String :=
  (splitChars separator text.toList).map String.ofList

/-- The characters before and after the first separator, if there is one. -/
def splitFirstChars? (separator : Char) : List Char → Option (List Char × List Char)
  | [] => none
  | character :: rest =>
      if character = separator then some ([], rest)
      else (splitFirstChars? separator rest).map fun (before, after) => (character :: before, after)

def splitFirst? (separator : Char) (text : String) : Option (String × String) :=
  (splitFirstChars? separator text.toList).map fun (before, after) =>
    (String.ofList before, String.ofList after)

def dropEndWhile (test : Char → Bool) (characters : List Char) : List Char :=
  (characters.reverse.dropWhile test).reverse

def trimChars (characters : List Char) : List Char :=
  dropEndWhile isBlank (characters.dropWhile isBlank)

def trim (text : String) : String := String.ofList (trimChars text.toList)

def trimEnd (text : String) : String := String.ofList (dropEndWhile isBlank text.toList)

def dropLast? (last : Char) (text : String) : Option String :=
  if text.toList.getLast? = some last then some (String.ofList text.toList.dropLast) else none

def dropStart (start text : String) : String :=
  if start.toList.isPrefixOf text.toList then
    String.ofList (text.toList.drop start.toList.length)
  else text

def endsWith (ending text : String) : Bool := ending.toList.isSuffixOf text.toList

def join (separator : String) : List String → String
  | [] => ""
  | [text] => text
  | text :: next :: rest => text ++ separator ++ join separator (next :: rest)

end SqlTree.Text
