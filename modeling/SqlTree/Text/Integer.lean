/-!
# Integers in text

A decimal integer is an optional sign followed by at least one ASCII digit. It has to fit 64 signed
bits.
-/

namespace SqlTree.Text

def fitsInt64 (value : Int) : Bool :=
  -0x8000000000000000 ≤ value && value < 0x8000000000000000

def natural? (digits : List Char) : Option Nat :=
  if !digits.isEmpty && digits.all Char.isDigit then some (Nat.ofDigitChars 10 digits 0) else none

def integerChars? : List Char → Option Int
  | '-' :: digits => (natural? digits).map fun value => -(value : Int)
  | '+' :: digits => (natural? digits).map fun value => (value : Int)
  | digits => (natural? digits).map fun value => (value : Int)

/-- The value of a text that is an integer of 64 signed bits. -/
def int64? (text : String) : Option Int :=
  (integerChars? text.toList).filter fitsInt64

/-! ## Digits of a number -/

theorem isDigit_of_mem_toDigits {value : Nat} {digit : Char} (mem : digit ∈ Nat.toDigits 10 value) :
    digit.isDigit = true :=
  Nat.isDigit_of_mem_toDigits (by omega) (by omega) mem

theorem toDigits_ne_minus (value : Nat) (rest : List Char) :
    Nat.toDigits 10 value ≠ '-' :: rest := by
  intro same
  have digit : '-'.isDigit = true :=
    isDigit_of_mem_toDigits (show '-' ∈ Nat.toDigits 10 value by simp [same])
  exact absurd digit (by decide)

end SqlTree.Text
