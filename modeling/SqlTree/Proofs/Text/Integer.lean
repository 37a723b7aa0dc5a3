import Mathlib.Tactic.SplitIfs
import SqlTree.Text.Blank
import SqlTree.Text.Integer

/-!
# Decimal integers

An integer is written with the digits of its magnitude, behind a minus sign if it is negative.
Reading this text gives the integer back.
-/

namespace SqlTree.Text

theorem toList_toString_int (value : Int) :
    (toString value).toList =
      if 0 ≤ value then Nat.toDigits 10 value.toNat else '-' :: Nat.toDigits 10 (-value).toNat := by
  rw [Int.toString_eq_repr, Int.repr_eq_if]
  split <;> simp [Nat.repr]

theorem toDigits_injective {left right : Nat}
    (same : Nat.toDigits 10 left = Nat.toDigits 10 right) : left = right := by
  rw [← @Nat.ofDigitChars_ten_toDigits left, same, Nat.ofDigitChars_ten_toDigits]

theorem toString_int_injective {left right : Int}
    (same : (toString left).toList = (toString right).toList) : left = right := by
  rw [toList_toString_int, toList_toString_int] at same
  split_ifs at same with leftSign rightSign rightSign
  · have := toDigits_injective same
    omega
  · exact absurd same (toDigits_ne_minus _ _)
  · exact absurd same.symm (toDigits_ne_minus _ _)
  · have := toDigits_injective (List.cons.inj same).2
    omega

def isIntegerCharacter (character : Char) : Bool := character.isDigit || character == '-'

theorem isIntegerCharacter_of_mem {value : Int} {character : Char}
    (mem : character ∈ (toString value).toList) : isIntegerCharacter character = true := by
  rw [toList_toString_int] at mem
  split at mem
  · simp [isIntegerCharacter, isDigit_of_mem_toDigits mem]
  · rcases List.mem_cons.mp mem with rfl | digit
    · decide
    · simp [isIntegerCharacter, isDigit_of_mem_toDigits digit]

theorem toString_int_ne_empty (value : Int) : toString value ≠ "" := by
  intro empty
  have characters := congrArg String.toList empty
  rw [toList_toString_int] at characters
  split at characters
  · exact Nat.toDigits_ne_nil characters
  · cases characters

theorem isBlank_of_isIntegerCharacter {character : Char}
    (found : isIntegerCharacter character = true) : isBlank character = false := by
  rcases Bool.or_eq_true_iff.mp found with digit | minus
  · have bounds := Bool.and_eq_true_iff.mp digit
    have above : 48 ≤ character.toNat := of_decide_eq_true bounds.1
    have below : character.toNat ≤ 57 := of_decide_eq_true bounds.2
    simp [isBlank, inRanges, blankRanges]
    omega
  · rw [eq_of_beq minus]
    decide

/-! ## Reading -/

theorem natural?_toDigits (value : Nat) : natural? (Nat.toDigits 10 value) = some value := by
  have digits : (Nat.toDigits 10 value).all Char.isDigit = true := by
    apply List.all_eq_true.mpr
    intro digit mem
    exact isDigit_of_mem_toDigits mem
  simp [natural?, digits, Nat.toDigits_ne_nil, Nat.ofDigitChars_ten_toDigits]

/-- Digits are read without a sign. -/
theorem integerChars?_toDigits (value : Nat) :
    integerChars? (Nat.toDigits 10 value) = some (value : Int) := by
  unfold integerChars?
  split
  · next rest same => exact absurd same (toDigits_ne_minus value rest)
  · next rest same =>
    have digit : '+'.isDigit = true :=
      isDigit_of_mem_toDigits (show '+' ∈ Nat.toDigits 10 value by simp [same])
    exact absurd digit (by decide)
  · simp [natural?_toDigits]

/-- The decimal text of an integer of 64 signed bits is read as this integer. -/
theorem int64?_toString {value : Int} (fits : fitsInt64 value = true) :
    int64? (toString value) = some value := by
  have read : integerChars? (toString value).toList = some value := by
    rw [toList_toString_int]
    split
    · next nonnegative => rw [integerChars?_toDigits, Int.toNat_of_nonneg nonnegative]
    · next negative =>
      have back : -((-value).toNat : Int) = value := by omega
      simp only [integerChars?, natural?_toDigits]
      exact congrArg some back
  rw [int64?, read]
  simp [fits]

end SqlTree.Text
