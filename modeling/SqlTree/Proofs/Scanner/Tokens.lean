import SqlTree.Proofs.Scanner.Layout
import SqlTree.Recorded

/-!
# The tokens of a text

The scanner reads a text in one pass, with at most one open word. From either state it goes on to
find the words of the rest, so its tokens are the words of a layout of the text. Each is cut out of
the text by its two offsets, which always lie between characters.
-/

namespace SqlTree

open String (utf8Len)
open Text (isBlank)

/-! ## Slices -/

theorem isValid_append (before after : List Char) :
    String.Pos.Raw.IsValid (String.ofList (before ++ after)) ⟨utf8Len before⟩ := by
  rw [String.Pos.Raw.isValid_iff_exists_append]
  refine ⟨String.ofList before, String.ofList after, String.ofList_append, ?_⟩
  rw [String.rawEndPos, String.utf8ByteSize_ofList]

/-- The offsets around a part of a text cut out the part. -/
theorem sliceBytes?_append (before word after : List Char) :
    sliceBytes? (String.ofList (before ++ word ++ after)) (utf8Len before)
      (utf8Len before + utf8Len word) = some (String.ofList word) := by
  have start := isValid_append before (word ++ after)
  have stop := isValid_append (before ++ word) after
  rw [← List.append_assoc] at start
  rw [String.utf8Len_append] at stop
  have places := And.intro (Nat.le_add_right (utf8Len before) (utf8Len word))
    (And.intro (String.Pos.Raw.isValid_eq_true_iff.mpr start)
      (String.Pos.Raw.isValid_eq_true_iff.mpr stop))
  rw [sliceBytes?, if_pos places, String.extract_of_valid]

/-- A place in a text determines what is in front of it. -/
theorem append_inj_of_utf8Len {before rest front back : List Char}
    (same : before ++ rest = front ++ back) (offsets : utf8Len before = utf8Len front) :
    before = front ∧ rest = back := by
  rcases List.append_eq_append_iff.mp same with ⟨between, rfl, rfl⟩ | ⟨between, rfl, rfl⟩
  all_goals
    rw [String.utf8Len_append] at offsets
    have empty : between = [] := String.utf8Len_eq_zero.mp (by omega)
    simp [empty]

namespace Scanner

@[simp]
theorem token_start (source : String) (start stop : Nat) :
    (token source start stop).start = start := by
  unfold token
  dsimp only
  split <;> rfl

@[simp]
theorem token_stop (source : String) (start stop : Nat) :
    (token source start stop).stop = stop := by
  unfold token
  dsimp only
  split <;> rfl

section

variable {source word : String} {start stop : Nat}

/-- What the token of a word is. -/
theorem token_eq (sliced : sliceBytes? source start stop = some word) :
    token source start stop =
      if upperCase word ∈ keywords then ⟨upperCase word, word, start, stop, .reserved⟩
      else ⟨"IDENT", word, start, stop, .none⟩ := by
  simp only [token, Token.ofSource, sliced, Option.getD_some, List.contains_iff_mem]
  rfl

theorem token_text (sliced : sliceBytes? source start stop = some word) :
    (token source start stop).text = word := by
  rw [token_eq sliced]
  split <;> rfl

theorem token_reserved_iff (sliced : sliceBytes? source start stop = some word) :
    ((token source start stop).keyword = .reserved ∧
      (token source start stop).kind = upperCase word) ↔ upperCase word ∈ keywords := by
  rw [token_eq sliced]
  split <;> simp [*]

theorem token_identifier_iff (sliced : sliceBytes? source start stop = some word) :
    ((token source start stop).keyword = .none ∧ (token source start stop).kind = "IDENT") ↔
      upperCase word ∉ keywords := by
  rw [token_eq sliced]
  split <;> simp [*]

end

/-! ## The pass over a text -/

/-- The token at the place of a word. -/
def wordToken (source : String) (word : Nat × List Char) : Token :=
  token source word.1 (word.1 + utf8Len word.2)

@[simp]
theorem wordToken_start (source : String) (word : Nat × List Char) :
    (wordToken source word).start = word.1 :=
  token_start source _ _

@[simp]
theorem wordToken_stop (source : String) (word : Nat × List Char) :
    (wordToken source word).stop = word.1 + utf8Len word.2 :=
  token_stop source _ _

/-- From either state, with a word open or without one, the scanner finds the words of the rest. -/
theorem tokensFrom_laid (source : String) (characters : List Char) :
    (∀ offset, ∃ words, Laid offset characters words ∧
      tokensFrom source none offset (characters ++ [' ']) = words.map (wordToken source)) ∧
    (∀ start word, word ≠ [] → (∀ character ∈ word, isBlank character = false) →
      ∃ words, Laid start (word ++ characters) words ∧
        tokensFrom source (some start) (start + utf8Len word) (characters ++ [' ']) =
          words.map (wordToken source)) := by
  have space : isBlank ' ' = true := by decide
  induction characters with
  | nil =>
      constructor
      · intro offset
        exact ⟨[], .nil offset, by simp [tokensFrom, space]⟩
      · intro start word nonempty visible
        refine ⟨[(start, word)], .word nonempty visible (by simp) (.nil _), ?_⟩
        simp [tokensFrom, space, wordToken]
  | cons character rest ih =>
      rcases ih with ⟨closed, opened⟩
      cases blank : isBlank character with
      | true =>
          constructor
          · intro offset
            rcases closed (offset + character.utf8Size) with ⟨words, laid, found⟩
            exact ⟨words, .blank blank laid, by simp [tokensFrom, blank, found]⟩
          · intro start word nonempty visible
            rcases closed (start + utf8Len word + character.utf8Size) with ⟨words, laid, found⟩
            refine ⟨(start, word) :: words, ?_, by simp [tokensFrom, blank, found, wordToken]⟩
            exact .word nonempty visible (by simpa using blank) (.blank blank laid)
      | false =>
          constructor
          · intro offset
            rcases opened offset [character] (by simp) (by simpa using blank) with
              ⟨words, laid, found⟩
            refine ⟨words, laid, ?_⟩
            rw [← found]
            simp [tokensFrom, blank]
          · intro start word nonempty visible
            have longer : ∀ next ∈ word ++ [character], isBlank next = false := by
              simpa [or_imp, forall_and] using And.intro visible blank
            rcases opened start (word ++ [character]) (by simp) longer with ⟨words, laid, found⟩
            refine ⟨words, by simpa using laid, ?_⟩
            rw [← found]
            simp [tokensFrom, blank, String.utf8Len_append, Nat.add_assoc]

theorem tokens_laid (source : String) :
    ∃ words, Laid 0 source.toList words ∧ tokens source = words.map (wordToken source) :=
  (tokensFrom_laid source source.toList).1 0

/-! ## Cover -/

/-- The tokens of a text cover it: what is not blank in the text is what they hold, in order. -/
structure Covers (source : String) (tokens : List Token) : Prop where
  nonempty : ∀ token ∈ tokens, token.start < token.stop
  /-- The ends lie between characters. -/
  boundaries : ∀ token ∈ tokens,
    String.Pos.Raw.IsValid source ⟨token.start⟩ ∧ String.Pos.Raw.IsValid source ⟨token.stop⟩
  sliced : ∀ token ∈ tokens, sliceBytes? source token.start token.stop = some token.text
  visible : ∀ token ∈ tokens, ∀ character ∈ token.text.toList, isBlank character = false
  apart : tokens.Pairwise fun first second => first.stop < second.start
  covered : ∀ (before after : String) (character : Char),
    source = before ++ String.singleton character ++ after → isBlank character = false →
    ∃ token ∈ tokens, token.start ≤ before.utf8ByteSize ∧
      before.utf8ByteSize + character.utf8Size ≤ token.stop
  /-- In order, the texts are the pieces between the blanks, without the empty ones. -/
  texts : tokens.map (·.text) =
    ((source.toList.splitOnP isBlank).filter (· ≠ [])).map String.ofList
  /-- Each stands at the place of its run, and no run is missed. -/
  runs : ∀ before word after : String, source = before ++ word ++ after →
    (MaximalRun before.toList word.toList after.toList ↔
      ∃ token ∈ tokens, token.start = before.utf8ByteSize ∧ token.text = word)
  keywords : ∀ token ∈ tokens, (token.keyword = .reserved ∧ token.kind = upperCase token.text) ↔
    upperCase token.text ∈ ["SELECT", "FROM", "WHERE"]
  identifiers : ∀ token ∈ tokens, (token.keyword = .none ∧ token.kind = "IDENT") ↔
    upperCase token.text ∉ ["SELECT", "FROM", "WHERE"]

variable {source : String} {words : List (Nat × List Char)}

/-- The place of a word cuts the word out of the text. -/
theorem Laid.slice (laid : Laid 0 source.toList words) {word : Nat × List Char}
    (mem : word ∈ words) :
    sliceBytes? source word.1 (word.1 + utf8Len word.2) = some (String.ofList word.2) := by
  rcases laid.exists_run word mem with ⟨before, after, cut, start, -⟩
  rw [start, Nat.zero_add, ← sliceBytes?_append before word.2 after, ← cut, String.ofList_toList]

theorem Laid.boundaries (laid : Laid 0 source.toList words) {word : Nat × List Char}
    (mem : word ∈ words) :
    String.Pos.Raw.IsValid source ⟨word.1⟩ ∧
      String.Pos.Raw.IsValid source ⟨word.1 + utf8Len word.2⟩ := by
  rcases laid.exists_run word mem with ⟨before, after, cut, start, -⟩
  have first := isValid_append before (word.2 ++ after)
  have last := isValid_append (before ++ word.2) after
  rw [← List.append_assoc, ← cut, String.ofList_toList] at first
  rw [← cut, String.ofList_toList, String.utf8Len_append] at last
  rw [start, Nat.zero_add]
  exact ⟨first, last⟩

theorem Laid.wordToken_text (laid : Laid 0 source.toList words) {word : Nat × List Char}
    (mem : word ∈ words) : (wordToken source word).text = String.ofList word.2 :=
  token_text (laid.slice mem)

/-- A word stands at a place of the text if and only if the text has a maximal run there. -/
theorem Laid.run_iff (laid : Laid 0 source.toList words) {before word after : List Char}
    (cut : source.toList = before ++ word ++ after) :
    MaximalRun before word after ↔ (utf8Len before, word) ∈ words := by
  constructor
  · intro run
    have mem := laid.mem_of_run cut run
    rwa [Nat.zero_add] at mem
  · intro mem
    rcases laid.exists_run _ mem with ⟨front, back, same, start, run⟩
    rw [cut, List.append_assoc, List.append_assoc] at same
    rw [Nat.zero_add] at start
    rcases append_inj_of_utf8Len same start with ⟨rfl, rest⟩
    rw [List.append_cancel_left rest]
    exact run

theorem Laid.covers (laid : Laid 0 source.toList words) :
    Covers source (words.map (wordToken source)) where
  nonempty := by
    rw [List.forall_mem_map]
    intro word mem
    rcases laid.exists_run word mem with ⟨_, _, _, _, run⟩
    have positive : utf8Len word.2 ≠ 0 := mt String.utf8Len_eq_zero.mp run.nonempty
    rw [wordToken_start, wordToken_stop]
    omega
  boundaries := by
    rw [List.forall_mem_map]
    intro word mem
    rw [wordToken_start, wordToken_stop]
    exact laid.boundaries mem
  sliced := by
    rw [List.forall_mem_map]
    intro word mem
    rw [laid.wordToken_text mem, wordToken_start, wordToken_stop]
    exact laid.slice mem
  visible := by
    rw [List.forall_mem_map]
    intro word mem
    rcases laid.exists_run word mem with ⟨_, _, _, _, run⟩
    rw [laid.wordToken_text mem, String.toList_ofList]
    exact run.visible
  apart := by
    rw [List.pairwise_map]
    simpa using laid.apart
  covered := by
    intro before after character cut visible
    have characters : source.toList = before.toList ++ character :: after.toList := by
      simp [cut]
    rcases laid.covered characters visible with ⟨word, mem, starts, stops⟩
    refine ⟨wordToken source word, List.mem_map_of_mem mem, ?_, ?_⟩
    all_goals
      rw [← String.utf8Len_toList]
      simp only [wordToken_start, wordToken_stop]
      omega
  texts := by
    rw [List.map_map, ← laid.words_eq, List.map_map]
    apply List.map_congr_left
    intro word mem
    exact laid.wordToken_text mem
  runs := by
    intro before word after cut
    have characters : source.toList = before.toList ++ word.toList ++ after.toList := by
      simp [cut]
    rw [laid.run_iff characters]
    constructor
    · intro mem
      refine ⟨_, List.mem_map_of_mem mem, ?_, ?_⟩
      · rw [wordToken_start, String.utf8Len_toList]
      · rw [laid.wordToken_text mem, String.ofList_toList]
    · rintro ⟨token, tokenMem, start, text⟩
      rcases List.mem_map.mp tokenMem with ⟨found, mem, rfl⟩
      rw [wordToken_start] at start
      rw [laid.wordToken_text mem] at text
      rw [String.utf8Len_toList, ← start, ← text, String.toList_ofList]
      exact mem
  keywords := by
    rw [List.forall_mem_map]
    intro word mem
    rw [laid.wordToken_text mem]
    exact token_reserved_iff (laid.slice mem)
  identifiers := by
    rw [List.forall_mem_map]
    intro word mem
    rw [laid.wordToken_text mem]
    exact token_identifier_iff (laid.slice mem)

/-- Scanning never fails, and the tokens that it finds cover the text. -/
theorem tokens_cover_text (source : String) :
    ∃ tokens, Recorded.parser.scan source = .ok tokens ∧ Covers source tokens := by
  rcases tokens_laid source with ⟨words, laid, found⟩
  refine ⟨tokens source, rfl, ?_⟩
  rw [found]
  exact laid.covers

end Scanner

end SqlTree
