import SqlTree.Text.Split

/-!
# Pieces of a text

Splitting a text and joining the pieces are inverse to each other, as long as no piece holds the
separator.
-/

namespace SqlTree.Text

theorem join_cons_of_ne_nil (separator text : String) {rest : List String} (more : rest ≠ []) :
    join separator (text :: rest) = text ++ separator ++ join separator rest := by
  cases rest with
  | nil => exact absurd rfl more
  | cons next rest => rfl

theorem splitChars_ne_nil (separator : Char) (characters : List Char) :
    splitChars separator characters ≠ [] := by
  have length := length_splitChars separator characters
  intro empty
  simp [empty] at length

/-- Splitting loses nothing but the separators. -/
theorem join_split (separator : Char) (text : String) :
    join (String.singleton separator) (split separator text) = text := by
  have characters (characters : List Char) :
      join (String.singleton separator) ((splitChars separator characters).map String.ofList) =
        String.ofList characters := by
    induction characters with
    | nil => rfl
    | cons character rest ih =>
        unfold splitChars
        split
        · next same =>
          rw [List.map_cons, join_cons_of_ne_nil _ _ (by simpa using splitChars_ne_nil _ _), ih]
          apply String.toList_inj.mp
          simp [same]
        · cases pieces : splitChars separator rest with
          | nil => exact absurd pieces (splitChars_ne_nil separator rest)
          | cons piece others =>
              rw [pieces] at ih
              apply String.toList_inj.mp
              have later := congrArg String.toList ih
              cases others <;> simpa [join] using later
  rw [split, characters, String.ofList_toList]

theorem splitChars_of_not_mem {separator : Char} {word : List Char} (absent : separator ∉ word) :
    splitChars separator word = [word] := by
  induction word with
  | nil => rfl
  | cons character rest ih =>
      rw [List.mem_cons, not_or] at absent
      simp [splitChars, Ne.symm absent.1, ih absent.2]

/-- A piece ends where a separator stands, so that no piece has one inside. -/
theorem not_mem_of_mem_splitChars {separator : Char} {characters piece : List Char}
    (mem : piece ∈ splitChars separator characters) : separator ∉ piece := by
  induction characters generalizing piece with
  | nil => simp_all [splitChars]
  | cons character rest ih =>
      unfold splitChars at mem
      split at mem
      · rcases List.mem_cons.mp mem with rfl | later
        · simp
        · exact ih later
      · next different =>
        split at mem
        · next empty => exact absurd empty (splitChars_ne_nil separator rest)
        · next first others pieces =>
          rcases List.mem_cons.mp mem with rfl | later
          · rw [List.mem_cons, not_or]
            exact ⟨Ne.symm different, ih (by simp [pieces])⟩
          · exact ih (by simp [pieces, later])

theorem split_ne_nil (separator : Char) (text : String) : split separator text ≠ [] :=
  fun empty => splitChars_ne_nil separator text.toList (List.map_eq_nil_iff.mp empty)

theorem not_mem_of_mem_split {separator : Char} {text piece : String}
    (mem : piece ∈ split separator text) : separator ∉ piece.toList := by
  rcases List.mem_map.mp mem with ⟨characters, found, rfl⟩
  rw [String.toList_ofList]
  exact not_mem_of_mem_splitChars found

theorem split_of_not_mem {separator : Char} {text : String} (absent : separator ∉ text.toList) :
    split separator text = [text] := by
  rw [split, splitChars_of_not_mem absent, List.map_singleton, String.ofList_toList]

/-- Texts are split as lists of characters are. -/
theorem splitChars_eq_splitOn (separator : Char) (characters : List Char) :
    splitChars separator characters = characters.splitOn separator := by
  induction characters with
  | nil => rfl
  | cons character rest ih =>
      rw [List.splitOn_cons_eq_if_modifyHead, ← ih]
      by_cases same : character = separator
      · simp [splitChars, same]
      · cases pieces : splitChars separator rest with
        | nil => exact absurd pieces (splitChars_ne_nil separator rest)
        | cons piece others => simp [splitChars, same, pieces]

theorem mem_split_iff {separator : Char} {text piece : String} :
    piece ∈ split separator text ↔ piece.toList ∈ text.toList.splitOn separator := by
  rw [split, splitChars_eq_splitOn, List.mem_map]
  constructor
  · rintro ⟨characters, mem, rfl⟩
    simpa using mem
  · intro mem
    exact ⟨piece.toList, mem, String.ofList_toList⟩

theorem splitChars_append_cons {separator : Char} {word : List Char} (absent : separator ∉ word)
    (rest : List Char) :
    splitChars separator (word ++ separator :: rest) = word :: splitChars separator rest := by
  induction word with
  | nil => simp [splitChars]
  | cons character others ih =>
      rw [List.mem_cons, not_or] at absent
      simp [splitChars, Ne.symm absent.1, ih absent.2]

/-- Pieces without the separator are found again. -/
theorem split_join {separator : Char} {words : List String} (nonempty : words ≠ [])
    (absent : ∀ word ∈ words, separator ∉ word.toList) :
    split separator (join (String.singleton separator) words) = words := by
  induction words with
  | nil => exact absurd rfl nonempty
  | cons word rest ih =>
      rw [List.forall_mem_cons] at absent
      cases rest with
      | nil => exact split_of_not_mem absent.1
      | cons next others =>
          have later := ih (List.cons_ne_nil next others) absent.2
          rw [join_cons_of_ne_nil _ _ (List.cons_ne_nil next others)]
          simp only [split, String.toList_append, String.toList_singleton, List.append_assoc,
            List.singleton_append, splitChars_append_cons absent.1, List.map_cons,
            String.ofList_toList]
          exact congrArg (word :: ·) later

theorem splitFirstChars?_append_cons {separator : Char} {front : List Char}
    (absent : separator ∉ front) (rest : List Char) :
    splitFirstChars? separator (front ++ separator :: rest) = some (front, rest) := by
  induction front with
  | nil => simp [splitFirstChars?]
  | cons character others ih =>
      rw [List.mem_cons, not_or] at absent
      simp [splitFirstChars?, Ne.symm absent.1, ih absent.2]

theorem splitFirstChars?_of_not_mem {separator : Char} {characters : List Char}
    (absent : separator ∉ characters) : splitFirstChars? separator characters = none := by
  induction characters with
  | nil => rfl
  | cons character others ih =>
      rw [List.mem_cons, not_or] at absent
      simp [splitFirstChars?, Ne.symm absent.1, ih absent.2]

theorem eq_append_of_splitFirst? {separator : Char} {text before after : String}
    (found : splitFirst? separator text = some (before, after)) :
    text = before ++ String.singleton separator ++ after := by
  have characters {characters front back : List Char}
      (found : splitFirstChars? separator characters = some (front, back)) :
      characters = front ++ separator :: back := by
    induction characters generalizing front with
    | nil => cases found
    | cons character rest ih =>
        unfold splitFirstChars? at found
        split at found
        · next same =>
          cases found
          rw [same, List.nil_append]
        · rcases Option.map_eq_some_iff.mp found with ⟨⟨others, _⟩, later, rest⟩
          cases rest
          rw [ih later, List.cons_append]
  rcases Option.map_eq_some_iff.mp found with ⟨⟨front, back⟩, split, pieces⟩
  cases pieces
  apply String.toList_inj.mp
  simp [characters split]

/-- Two texts of which the first parts have only characters that cannot begin the rests. -/
theorem append_inj_of_test (test : Char → Bool) {left right leftRest rightRest : List Char}
    (leftAll : ∀ character ∈ left, test character = true)
    (rightAll : ∀ character ∈ right, test character = true)
    (leftEnds : ∀ character ∈ leftRest.head?, test character = false)
    (rightEnds : ∀ character ∈ rightRest.head?, test character = false)
    (same : left ++ leftRest = right ++ rightRest) : left = right ∧ leftRest = rightRest := by
  have takeAll {front rest : List Char} (all : ∀ character ∈ front, test character = true)
      (ends : ∀ character ∈ rest.head?, test character = false) :
      (front ++ rest).takeWhile test = front := by
    rw [List.takeWhile_append_of_pos all]
    cases rest with
    | nil => simp
    | cons character tail => simp [ends character rfl]
  have fronts : left = right := by
    rw [← takeAll leftAll leftEnds, same, takeAll rightAll rightEnds]
  subst fronts
  exact ⟨rfl, List.append_cancel_left same⟩

end SqlTree.Text
