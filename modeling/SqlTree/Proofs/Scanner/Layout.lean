import Mathlib.Data.String.Basic
import SqlTree.Proofs.Text.Splitting
import SqlTree.Text.Blank

/-!
# Words between blanks

A text is laid out as words with blanks around them, where no two words touch. `Laid` is this
description, with the offset of each word in bytes. Everything that a scanner promises about words
follows from it: they are apart, they hold every character that is not blank, and they are exactly
the maximal runs without blanks.
-/

namespace SqlTree.Scanner

open String (utf8Len)
open Text (isBlank)

/-- Words with blanks around them from an offset on, each with the offset of its start. -/
inductive Laid : Nat → List Char → List (Nat × List Char) → Prop
  | nil (offset : Nat) : Laid offset [] []
  | blank {offset : Nat} {character : Char} {rest : List Char} {words : List (Nat × List Char)}
      (blank : isBlank character = true) (later : Laid (offset + character.utf8Size) rest words) :
      Laid offset (character :: rest) words
  | word {offset : Nat} {word rest : List Char} {words : List (Nat × List Char)}
      (nonempty : word ≠ []) (visible : ∀ character ∈ word, isBlank character = false)
      (ends : ∀ character ∈ rest.head?, isBlank character = true)
      (later : Laid (offset + utf8Len word) rest words) :
      Laid offset (word ++ rest) ((offset, word) :: words)

variable {offset : Nat} {characters : List Char} {words : List (Nat × List Char)}

theorem Laid.le_start (laid : Laid offset characters words) : ∀ word ∈ words, offset ≤ word.1 := by
  induction laid with
  | nil => simp
  | blank _ _ ih =>
      intro word mem
      have := ih word mem
      omega
  | word _ _ _ _ ih =>
      rw [List.forall_mem_cons]
      refine ⟨Nat.le_refl _, ?_⟩
      intro word mem
      have := ih word mem
      omega

/-- Behind a blank there is a gap. -/
theorem Laid.lt_start (laid : Laid offset characters words)
    (begins : ∀ character ∈ characters.head?, isBlank character = true) :
    ∀ word ∈ words, offset < word.1 := by
  cases laid with
  | nil => simp
  | @blank _ character _ _ _ later =>
      intro word mem
      have start := later.le_start word mem
      have := character.utf8Size_pos
      omega
  | @word _ word rest _ nonempty visible =>
      cases word with
      | nil => exact absurd rfl nonempty
      | cons first others =>
          have blank := begins first rfl
          rw [visible first List.mem_cons_self] at blank
          cases blank

/-- Between the end of a word and the start of any later one there is a gap. -/
theorem Laid.apart (laid : Laid offset characters words) :
    words.Pairwise fun first second => first.1 + utf8Len first.2 < second.1 := by
  induction laid with
  | nil => exact .nil
  | blank _ _ ih => exact ih
  | word _ _ ends later ih => exact List.pairwise_cons.mpr ⟨later.lt_start ends, ih⟩

/-! ## Maximal runs -/

/-- A word of a text, with what is around it, that no further character could join. -/
structure MaximalRun (before word after : List Char) : Prop where
  nonempty : word ≠ []
  visible : ∀ character ∈ word, isBlank character = false
  opens : ∀ character ∈ before.getLast?, isBlank character = true
  ends : ∀ character ∈ after.head?, isBlank character = true

theorem MaximalRun.of_append {front before word after : List Char}
    (run : MaximalRun (front ++ before) word after) : MaximalRun before word after where
  nonempty := run.nonempty
  visible := run.visible
  opens character mem := by
    apply run.opens
    rw [List.getLast?_append, Option.mem_def.mp mem]
    rfl
  ends := run.ends

/-- Two words are never adjacent, so before every word there is a blank or the start of the text. -/
theorem Laid.exists_run (laid : Laid offset characters words) :
    ∀ word ∈ words, ∃ before after, characters = before ++ word.2 ++ after ∧
      word.1 = offset + utf8Len before ∧ MaximalRun before word.2 after := by
  induction laid with
  | nil => simp
  | @blank offset character rest words blank later ih =>
      intro word mem
      rcases ih word mem with ⟨before, after, rfl, start, run⟩
      refine ⟨character :: before, after, rfl, ?_, run.nonempty, run.visible, ?_, run.ends⟩
      · rw [start, String.utf8Len_cons]
        omega
      · cases before with
        | nil => simpa using blank
        | cons next others => simpa using run.opens
  | @word offset first rest words nonempty visible ends later ih =>
      rw [List.forall_mem_cons]
      constructor
      · exact ⟨[], rest, rfl, rfl, nonempty, visible, by simp, ends⟩
      · intro word mem
        rcases ih word mem with ⟨before, after, rfl, start, run⟩
        refine ⟨first ++ before, after, by simp, ?_, run.nonempty, run.visible, ?_, run.ends⟩
        · rw [start, String.utf8Len_append]
          omega
        · have between : before ≠ [] := by
            rintro rfl
            have gap := later.lt_start ends word mem
            simp only [String.utf8Len_nil] at start
            omega
          have last := List.getLast?_eq_some_getLast between
          rw [List.getLast?_append, last, Option.some_or, ← last]
          exact run.opens

/-- A maximal run cannot start inside a word, so it is one of the words. -/
theorem Laid.mem_of_run (laid : Laid offset characters words) {before word after : List Char}
    (cut : characters = before ++ word ++ after) (run : MaximalRun before word after) :
    (offset + utf8Len before, word) ∈ words := by
  induction laid generalizing before with
  | nil =>
      have empty : word = [] := by simp_all
      exact absurd empty run.nonempty
  | @blank offset character rest words blank later ih =>
      cases before with
      | nil =>
          rcases List.exists_cons_of_ne_nil run.nonempty with ⟨first, others, rfl⟩
          have visible := run.visible first List.mem_cons_self
          rw [← (List.cons.inj cut).1, blank] at visible
          cases visible
      | cons first others =>
          rcases List.cons.inj cut with ⟨rfl, rest⟩
          have later : MaximalRun ([character] ++ others) word after := run
          have mem := ih rest later.of_append
          rw [String.utf8Len_cons, Nat.add_comm (utf8Len others), ← Nat.add_assoc]
          exact mem
  | @word offset first rest words nonempty visible ends later ih =>
      rw [List.append_assoc] at cut
      rcases List.append_eq_append_iff.mp cut with ⟨between, rfl, further⟩ | ⟨inner, rfl, same⟩
      · have mem := ih (by rw [further, List.append_assoc]) run.of_append
        rw [String.utf8Len_append, ← Nat.add_assoc]
        exact List.mem_cons_of_mem _ mem
      · rcases List.eq_nil_or_concat before with rfl | ⟨others, last, rfl⟩
        · have equal : word = inner :=
            (Text.append_inj_of_test (fun character => !isBlank character)
              (by simpa using run.visible) (by simpa using visible) (by simpa using run.ends)
              (by simpa using ends) same).1
          rw [equal]
          exact List.mem_cons_self
        · have blank := run.opens last (by simp)
          rw [visible last (by simp)] at blank
          cases blank

/-! ## What the words hold -/

/--
Every character that is not blank stands in a word, since only a blank can stand right behind one.
-/
theorem Laid.covered (laid : Laid offset characters words) {before after : List Char}
    {character : Char} (cut : characters = before ++ character :: after)
    (visible : isBlank character = false) :
    ∃ word ∈ words, word.1 ≤ offset + utf8Len before ∧
      offset + utf8Len before + character.utf8Size ≤ word.1 + utf8Len word.2 := by
  induction laid generalizing before with
  | nil => simp at cut
  | @blank offset first rest words blank later ih =>
      cases before with
      | nil =>
          rw [← (List.cons.inj cut).1, blank] at visible
          cases visible
      | cons next others =>
          rcases List.cons.inj cut with ⟨rfl, rest⟩
          rcases ih rest with ⟨word, mem, starts, stops⟩
          refine ⟨word, mem, ?_, ?_⟩ <;> rw [String.utf8Len_cons] <;> omega
  | @word offset first rest words nonempty inside ends later ih =>
      rcases List.append_eq_append_iff.mp cut with ⟨between, rfl, further⟩ | ⟨inner, rfl, same⟩
      · rcases ih further with ⟨word, mem, starts, stops⟩
        refine ⟨word, List.mem_cons_of_mem _ mem, ?_, ?_⟩ <;> rw [String.utf8Len_append] <;> omega
      · cases inner with
        | nil =>
            rw [List.nil_append] at same
            have blank := ends character (by rw [← same]; rfl)
            rw [visible] at blank
            cases blank
        | cons next others =>
            rcases List.cons.inj same with ⟨rfl, _⟩
            refine ⟨_, List.mem_cons_self, Nat.le_add_right _ _, ?_⟩
            simp only [String.utf8Len_append, String.utf8Len_cons]
            omega

/-- The words are the pieces between the blanks, without the empty ones. -/
theorem Laid.words_eq (laid : Laid offset characters words) :
    words.map (·.2) = (characters.splitOnP isBlank).filter (· ≠ []) := by
  induction laid with
  | nil => rfl
  | blank blank _ ih => simp [List.splitOnP_cons_eq_if_modifyHead, blank, ih]
  | @word offset word rest words nonempty visible ends later ih =>
      rw [List.map_cons, ih]
      cases rest with
      | nil => simp [List.splitOnP_eq_singleton visible, nonempty]
      | cons next others =>
          have blank := ends next rfl
          rw [List.splitOnP_append_cons_of_forall_mem visible next blank]
          simp [List.splitOnP_cons_eq_if_modifyHead, blank, nonempty]

end SqlTree.Scanner
