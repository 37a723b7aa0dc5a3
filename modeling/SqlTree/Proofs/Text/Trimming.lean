import Mathlib.Data.List.DropRight
import SqlTree.Text.Split

/-!
# Blanks at the ends of a text

Trimming does not see blanks that are put around a text, and it keeps a text that has no blank at
either end. So a text is found again behind any blanks in front of it and before any behind it.
-/

namespace SqlTree.Text

def AllBlank (characters : List Char) : Prop := ∀ character ∈ characters, isBlank character = true

instance (characters : List Char) : Decidable (AllBlank characters) :=
  decidable_of_iff (characters.all isBlank = true) List.all_eq_true

/-- There is no blank at either end. -/
structure Trimmed (characters : List Char) : Prop where
  first : ∀ character ∈ characters.head?, isBlank character = false
  last : ∀ character ∈ characters.getLast?, isBlank character = false

/-- The second text is the first one with blanks around it. -/
def Padded (text written : String) : Prop :=
  ∃ before after : String,
    AllBlank before.toList ∧ AllBlank after.toList ∧ written = before ++ text ++ after

theorem Trimmed.of_forall {characters : List Char}
    (visible : ∀ character ∈ characters, isBlank character = false) : Trimmed characters where
  first character mem := visible character (List.mem_of_mem_head? mem)
  last character mem := visible character (List.mem_of_mem_getLast? mem)

/-! ## Dropping blanks -/

theorem dropWhile_of_first {characters : List Char}
    (first : ∀ character ∈ characters.head?, isBlank character = false) :
    characters.dropWhile isBlank = characters := by
  cases characters with
  | nil => rfl
  | cons character rest => simp [first character rfl]

theorem dropWhile_eq_nil {characters : List Char} (blank : AllBlank characters) :
    characters.dropWhile isBlank = [] :=
  List.dropWhile_eq_nil_iff.mpr blank

theorem dropEndWhile_append {after : List Char} (blank : AllBlank after)
    (characters : List Char) :
    dropEndWhile isBlank (characters ++ after) = dropEndWhile isBlank characters := by
  have reversed : ∀ character ∈ after.reverse, isBlank character = true := by
    intro character mem
    exact blank character (List.mem_reverse.mp mem)
  simp only [dropEndWhile, List.reverse_append]
  rw [List.dropWhile_append_of_pos reversed]

theorem dropEndWhile_of_last {characters : List Char}
    (last : ∀ character ∈ characters.getLast?, isBlank character = false) :
    dropEndWhile isBlank characters = characters := by
  have reversed : characters.reverse.dropWhile isBlank = characters.reverse := by
    apply dropWhile_of_first
    simpa using last
  rw [dropEndWhile, reversed, List.reverse_reverse]

/-- What is dropped in front of a character that is not blank stands before this character. -/
theorem dropWhile_append_cons {separator : Char} (visible : isBlank separator = false)
    (front rest : List Char) :
    (front ++ separator :: rest).dropWhile isBlank =
      front.dropWhile isBlank ++ separator :: rest := by
  rw [List.dropWhile_append]
  split
  · next dropped => simp [List.isEmpty_iff.mp dropped, visible]
  · rfl

/-! ## Trimming -/

theorem trimChars_of_trimmed {characters : List Char} (trimmed : Trimmed characters) :
    trimChars characters = characters := by
  rw [trimChars, dropWhile_of_first trimmed.first, dropEndWhile_of_last trimmed.last]

theorem trimChars_dropWhile (characters : List Char) :
    trimChars (characters.dropWhile isBlank) = trimChars characters := by
  rw [trimChars, List.dropWhile_idempotent, trimChars]

theorem trimChars_padded {before after : List Char} (blankBefore : AllBlank before)
    (blankAfter : AllBlank after) (characters : List Char) :
    trimChars (before ++ characters ++ after) = trimChars characters := by
  unfold trimChars
  rw [List.append_assoc, List.dropWhile_append_of_pos blankBefore, List.dropWhile_append]
  split
  · next dropped => rw [dropWhile_eq_nil blankAfter, List.isEmpty_iff.mp dropped]
  · exact dropEndWhile_append blankAfter _

theorem mem_of_mem_dropEndWhile {test : Char → Bool} {characters : List Char} {character : Char}
    (mem : character ∈ dropEndWhile test characters) : character ∈ characters := by
  have inside := (List.dropWhile_sublist test).subset (List.mem_reverse.mp mem)
  exact List.mem_reverse.mp inside

theorem mem_of_mem_trimChars {characters : List Char} {character : Char}
    (mem : character ∈ trimChars characters) : character ∈ characters :=
  (List.dropWhile_sublist isBlank).subset (mem_of_mem_dropEndWhile mem)

/-- Blanks around a text are trimmed away. -/
theorem Padded.trim_eq {text written : String} (padded : Padded text written)
    (trimmed : Trimmed text.toList) : trim written = text := by
  rcases padded with ⟨before, after, blankBefore, blankAfter, rfl⟩
  have characters := trimChars_padded blankBefore blankAfter text.toList
  rw [trimChars_of_trimmed trimmed] at characters
  simp only [trim, String.toList_append, characters, String.ofList_toList]

theorem AllBlank.trim_eq {text : String} (blank : AllBlank text.toList) : trim text = "" := by
  rw [trim, trimChars, dropWhile_eq_nil blank]
  rfl

/-- A character that is not blank stands in a padded text only if it stands in the text. -/
theorem Padded.not_mem {text written : String} (padded : Padded text written) {character : Char}
    (visible : isBlank character = false) (absent : character ∉ text.toList) :
    character ∉ written.toList := by
  rcases padded with ⟨before, after, blankBefore, blankAfter, rfl⟩
  have outside {blanks : List Char} (blank : AllBlank blanks) : character ∉ blanks := by
    intro mem
    rw [blank character mem] at visible
    cases visible
  simp [outside blankBefore, outside blankAfter, absent]

end SqlTree.Text
