import Mathlib.Tactic.SplitIfs
import SqlTree.Json.Reader
import SqlTree.Json.Writer
import SqlTree.Text.Integer

/-!
# Reading back strings and integers

The tokens of the encoding are read back from any text that they begin. A string ends at its closing
quote, so whatever follows it is left alone. An integer has no mark at its end: it is read back only
if the text behind it cannot continue a number, which `Json.EndsNumber` says.
-/

namespace SqlTree

/-- An integer that has a literal of its own: `-2^63` to `2^64 - 1`. A float is none. -/
def Number.isJsonInteger : Number → Bool
  | .int value => decide (-0x8000000000000000 ≤ value ∧ value ≤ 0xFFFFFFFFFFFFFFFF)
  | .float _ => false

namespace Json

/-! ## Strings -/

theorem hexValue?_hexDigit {digit : Nat} (small : digit < 16) :
    hexValue? (hexDigit digit) = some digit := by
  have all : ∀ digit < 16, hexValue? (hexDigit digit) = some digit := by decide
  exact all digit small

theorem hexQuad?_hexDigit {code : Nat} (small : code < 0x20) :
    hexQuad? '0' '0' (hexDigit (code / 16)) (hexDigit (code % 16)) = some code := by
  have zero : hexValue? '0' = some 0 := by decide
  rw [hexQuad?, zero, hexValue?_hexDigit (by omega), hexValue?_hexDigit (by omega)]
  simp only [Option.bind_eq_bind, Option.bind_some, Option.some.injEq]
  omega

theorem stringChar?_escapeChar (character : Char) (rest : List Char) :
    stringChar? (escapeChar character ++ rest) = some (character, rest) := by
  unfold escapeChar
  split_ifs with quote backslash backspace formFeed newline carriage tab control
  case pos | pos | pos | pos | pos | pos | pos => subst_vars; rfl
  · have low : ¬(0xD800 ≤ character.toNat ∧ character.toNat ≤ 0xDFFF) := by omega
    simp [stringChar?, hexQuad?_hexDigit control, scalar?, low]
  · simp only [List.cons_append, List.nil_append]
    unfold stringChar?
    split <;> simp_all

theorem escapeChar_ne_quote (character : Char) (rest tail : List Char) :
    escapeChar character ++ rest ≠ '"' :: tail := by
  unfold escapeChar
  split_ifs <;> simp_all

theorem length_le_flatMap_escapeChar (characters : List Char) :
    characters.length ≤ (characters.flatMap escapeChar).length := by
  induction characters with
  | nil => simp
  | cons character rest ih =>
      have nonempty : 0 < (escapeChar character).length := by
        unfold escapeChar
        split_ifs <;> simp
      simp only [List.flatMap_cons, List.length_append, List.length_cons]
      omega

theorem stringBody_escaped (characters rest : List Char) {fuel : Nat}
    (enough : characters.length < fuel) :
    stringBody fuel (characters.flatMap escapeChar ++ '"' :: rest) = some (characters, rest) := by
  induction characters generalizing fuel with
  | nil =>
      obtain ⟨fuel, rfl⟩ := Nat.exists_eq_succ_of_ne_zero (Nat.ne_of_gt enough)
      rfl
  | cons character characters ih =>
      obtain ⟨fuel, rfl⟩ := Nat.exists_eq_succ_of_ne_zero (Nat.ne_of_gt (Nat.zero_lt_of_lt enough))
      have later := @ih fuel (by simpa using enough)
      rw [List.flatMap_cons, List.append_assoc, stringBody, stringChar?_escapeChar]
      · simp [later]
      · exact fun tail => escapeChar_ne_quote character _ tail

/-- A string is read back, whatever follows its closing quote. -/
theorem readString_escaped (text : String) (rest : List Char) {fuel : Nat}
    (enough : (text.toList.flatMap escapeChar).length < fuel) :
    readString fuel (text.toList.flatMap escapeChar ++ '"' :: rest) = some (text, rest) := by
  have shorter := length_le_flatMap_escapeChar text.toList
  rw [readString, stringBody_escaped text.toList rest (by omega)]
  simp

/-! ## Integers -/

/-- A text that cannot continue a number in front of it. -/
def EndsNumber (rest : List Char) : Prop :=
  ∀ character ∈ rest.head?,
    character.isDigit = false ∧ character ≠ '.' ∧ character ≠ 'e' ∧ character ≠ 'E'

theorem spanDigits_append {digits rest : List Char}
    (allDigits : ∀ digit ∈ digits, digit.isDigit = true) (ends : EndsNumber rest) :
    spanDigits (digits ++ rest) = (digits, rest) := by
  have stops : rest.takeWhile Char.isDigit = [] ∧ rest.dropWhile Char.isDigit = rest := by
    cases rest with
    | nil => simp
    | cons character tail => simp [(ends character rfl).1]
  rw [spanDigits, List.takeWhile_append_of_pos allDigits, List.dropWhile_append_of_pos allDigits,
    stops.1, stops.2, List.append_nil]

/-- The digits of a number that is not zero do not start with a zero. -/
theorem toDigits_ne_zero_cons {value : Nat} (positive : 0 < value) (rest : List Char) :
    Nat.toDigits 10 value ≠ '0' :: rest := by
  induction value using Nat.strongRecOn generalizing rest with
  | ind value ih =>
      rw [Nat.toDigits_eq_if (by omega)]
      split
      · next small =>
        have all : ∀ value < 10, 0 < value → value.digitChar ≠ '0' := by decide
        simp [all value small positive]
      · next large =>
        intro same
        cases front : Nat.toDigits 10 (value / 10) with
        | nil => exact Nat.toDigits_ne_nil front
        | cons first others =>
            rw [front, List.cons_append] at same
            injection same with firstZero
            rw [firstZero] at front
            exact ih (value / 10) (by omega) (by omega) others front

theorem wholePart?_toDigits (value : Nat) {rest : List Char} (ends : EndsNumber rest) :
    wholePart? (Nat.toDigits 10 value ++ rest) = some (Nat.toDigits 10 value, rest) := by
  rcases Nat.eq_zero_or_pos value with rfl | positive
  · rfl
  · cases digits : Nat.toDigits 10 value with
    | nil => exact absurd digits Nat.toDigits_ne_nil
    | cons first others =>
        have allDigits : ∀ digit ∈ Nat.toDigits 10 value, digit.isDigit = true :=
          fun _ mem => Text.isDigit_of_mem_toDigits mem
        have span := spanDigits_append allDigits ends
        rw [digits] at span
        unfold wholePart?
        split
        · next tail same =>
          rw [List.cons_append] at same
          injection same with firstZero
          exact absurd (firstZero ▸ digits) (toDigits_ne_zero_cons positive others)
        · rw [span]

theorem fractionPart?_of_endsNumber {rest : List Char} (ends : EndsNumber rest) :
    fractionPart? rest = some ([], rest) := by
  unfold fractionPart?
  split
  · exact absurd rfl (ends '.' rfl).2.1
  · rfl

theorem exponentPart?_of_endsNumber {rest : List Char} (ends : EndsNumber rest) :
    exponentPart? rest = some (none, rest) := by
  unfold exponentPart?
  split
  · exact absurd rfl (ends 'e' rfl).2.2.1
  · exact absurd rfl (ends 'E' rfl).2.2.2
  · rfl

theorem takeDigits_eq {digits : List Char} {significand : Nat}
    (small : Nat.ofDigitChars 10 digits significand ≤ significandLimit) :
    takeDigits significand digits = (Nat.ofDigitChars 10 digits significand, 0) := by
  induction digits generalizing significand with
  | nil => simp [takeDigits, Nat.ofDigitChars_nil]
  | cons digit rest ih =>
      have next : significand * 10 + digitValue digit =
          10 * significand + (digit.toNat - '0'.toNat) := by
        rw [digitValue, Nat.mul_comm]
      rw [Nat.ofDigitChars_cons] at small ⊢
      have grows := @Nat.ofDigitChars_eq_ofDigitChars_zero rest
        (10 * significand + (digit.toNat - '0'.toNat))
      have least := Nat.le_mul_of_pos_left (10 * significand + (digit.toNat - '0'.toNat))
        (Nat.pow_pos (n := rest.length) (show 0 < 10 by omega))
      rw [takeDigits, next, if_pos (by omega), ih small]

theorem literal?_toDigits (value : Nat) {rest : List Char} (ends : EndsNumber rest) :
    literal? (Nat.toDigits 10 value ++ rest) =
      some (⟨false, Nat.toDigits 10 value, [], none⟩, rest) := by
  have unsigned : ∀ tail, Nat.toDigits 10 value ++ rest ≠ '-' :: tail := by
    intro tail same
    cases digits : Nat.toDigits 10 value with
    | nil => exact absurd digits Nat.toDigits_ne_nil
    | cons first others =>
        rw [digits, List.cons_append] at same
        injection same with firstMinus
        exact Text.toDigits_ne_minus value others (by rw [digits, firstMinus])
  unfold literal?
  split
  next isNegative text signed =>
  split at signed
  · next tail same => exact absurd same (unsigned tail)
  · cases signed
    simp [wholePart?_toDigits value ends, fractionPart?_of_endsNumber ends,
      exponentPart?_of_endsNumber ends]

theorem literal?_minus_toDigits (value : Nat) {rest : List Char} (ends : EndsNumber rest) :
    literal? ('-' :: (Nat.toDigits 10 value ++ rest)) =
      some (⟨true, Nat.toDigits 10 value, [], none⟩, rest) := by
  simp [literal?, wholePart?_toDigits value ends, fractionPart?_of_endsNumber ends,
    exponentPart?_of_endsNumber ends]

/-- An integer with a literal of its own is read back. -/
theorem readNumber_writeInt {value : Int} (fits : (Number.int value).isJsonInteger = true)
    {rest : List Char} (ends : EndsNumber rest) :
    readNumber (writeInt value ++ rest) = some (.int value, rest) := by
  simp only [Number.isJsonInteger, decide_eq_true_eq] at fits
  have digits : Nat.ofDigitChars 10 (Nat.toDigits 10 value.natAbs) 0 = value.natAbs :=
    Nat.ofDigitChars_ten_toDigits
  have taken : takeDigits 0 (Nat.toDigits 10 value.natAbs) = (value.natAbs, 0) := by
    rw [takeDigits_eq, digits]
    rw [digits, significandLimit]
    omega
  unfold writeInt readNumber
  split_ifs with negative
  · rw [List.cons_append, literal?_minus_toDigits _ ends]
    have inside : ¬(value.natAbs = 0 ∨ value.natAbs > 0x8000000000000000) := by omega
    have back : -(value.natAbs : Int) = value := by omega
    have whole : integer? true (Nat.toDigits 10 value.natAbs) = some (.int value) := by
      simp only [integer?, taken, Bool.not_true, Bool.false_eq_true, if_false, if_neg inside, back]
    simp [Literal.value?, whole]
  · rw [literal?_toDigits _ ends]
    have back : (value.natAbs : Int) = value := by omega
    have whole : integer? false (Nat.toDigits 10 value.natAbs) = some (.int value) := by
      simp only [integer?, taken, Bool.not_false, if_true, back]
    simp [Literal.value?, whole]

end Json

end SqlTree
