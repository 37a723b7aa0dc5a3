import SqlTree.Tree.Basic

/-!
# Reading numbers

An integer literal from `-2^63` to `2^64 - 1` is an integer. Every other number is a binary64
value, computed from a significand of at most 64 bits and a power of ten:

* digits are taken into the significand as long as it fits 64 bits; further digits before the
  point only raise the power, and further digits behind it are dropped;
* the significand is rounded to binary64 and then multiplied or divided by the power of ten.

A number too great for binary64 is refused, and one too small becomes zero. The literal `-0` is the
negative zero of binary64.
-/

namespace SqlTree.Json

def significandLimit : Nat := 0xFFFFFFFFFFFFFFFF

def exponentLimit : Nat := 0x7FFFFFFF

def digitValue (digit : Char) : Nat := digit.toNat - '0'.toNat

/--
Takes digits into a significand as long as it stays within the limit. The result is the
significand and the number of digits that were not taken.
-/
def takeDigits (significand : Nat) : List Char → Nat × Nat
  | [] => (significand, 0)
  | digit :: rest =>
      let next := significand * 10 + digitValue digit
      if next ≤ significandLimit then takeDigits next rest else (significand, rest.length + 1)

def powerOfTen (exponent : Nat) : Float := Float.ofScientific 1 false exponent

/-- Divides by a power of ten, in steps of `10^308` if the power is beyond binary64. -/
def scaleDown (value : Float) (exponent : Nat) : Float :=
  if exponent ≤ 308 then value / powerOfTen exponent
  else if value == 0 then value
  else scaleDown (value / powerOfTen 308) (exponent - 308)
termination_by exponent

/-- The value `significand * 10 ^ exponent`, or `none` if it is beyond binary64. -/
def scale? (significand : Nat) (exponent : Int) : Option Float :=
  let value := significand.toUInt64.toFloat
  if exponent < 0 then some (scaleDown value (-exponent).toNat)
  else if exponent ≤ 308 then
    let scaled := value * powerOfTen exponent.toNat
    if scaled.isInf then none else some scaled
  else if value == 0 then some value
  else none

def signed (isNegative : Bool) (value : Float) : Number :=
  .float (.ofFloat (if isNegative then -value else value))

def integer? (isNegative : Bool) (digits : List Char) : Option Number :=
  match takeDigits 0 digits with
  | (significand, 0) =>
      if !isNegative then some (.int significand)
      else if significand = 0 ∨ significand > 0x8000000000000000 then
        some (signed true significand.toUInt64.toFloat)
      else some (.int (-(significand : Int)))
  | (significand, dropped) => (scale? significand dropped).map (signed isNegative)

def decimal? (isNegative : Bool) (digits fraction : List Char)
    (exponent : Option (Bool × List Char)) : Option Number :=
  let (whole, droppedWhole) := takeDigits 0 digits
  let (significand, droppedFraction) := takeDigits whole fraction
  let point : Int := droppedWhole - (fraction.length - droppedFraction : Nat)
  match exponent with
  | none => (scale? significand point).map (signed isNegative)
  | some (isDown, exponentDigits) =>
      let shift := Nat.ofDigitChars 10 exponentDigits 0
      if shift ≤ exponentLimit then
        (scale? significand (if isDown then point - shift else point + shift)).map
          (signed isNegative)
      else if significand ≠ 0 ∧ !isDown then none
      else some (signed isNegative 0)

/-! ## The grammar of literals -/

def spanDigits (text : List Char) : List Char × List Char :=
  (text.takeWhile Char.isDigit, text.dropWhile Char.isDigit)

/-- The integer part: a zero, or digits that do not start with one. -/
def wholePart? (text : List Char) : Option (List Char × List Char) :=
  match text with
  | '0' :: rest => some (['0'], rest)
  | _ =>
      match spanDigits text with
      | ([], _) => none
      | parts => some parts

/-- The digits behind a point. An absent point leaves no digits, a bare point is refused. -/
def fractionPart? (text : List Char) : Option (List Char × List Char) :=
  match text with
  | '.' :: rest =>
      match spanDigits rest with
      | ([], _) => none
      | parts => some parts
  | _ => some ([], text)

def exponentDigits? (text : List Char) : Option ((Bool × List Char) × List Char) :=
  let (isDown, rest) :=
    match text with
    | '+' :: rest => (false, rest)
    | '-' :: rest => (true, rest)
    | _ => (false, text)
  match spanDigits rest with
  | ([], _) => none
  | (digits, rest) => some ((isDown, digits), rest)

def exponentPart? (text : List Char) : Option (Option (Bool × List Char) × List Char) :=
  match text with
  | 'e' :: rest | 'E' :: rest => (exponentDigits? rest).map fun (part, rest) => (some part, rest)
  | _ => some (none, text)

structure Literal where
  isNegative : Bool
  digits : List Char
  fraction : List Char
  exponent : Option (Bool × List Char)

def literal? (text : List Char) : Option (Literal × List Char) := do
  let (isNegative, text) :=
    match text with
    | '-' :: rest => (true, rest)
    | _ => (false, text)
  let (digits, text) ← wholePart? text
  let (fraction, text) ← fractionPart? text
  let (exponent, text) ← exponentPart? text
  some ({ isNegative, digits, fraction, exponent }, text)

def Literal.value? (literal : Literal) : Option Number :=
  if literal.fraction.isEmpty && literal.exponent.isNone then
    integer? literal.isNegative literal.digits
  else decimal? literal.isNegative literal.digits literal.fraction literal.exponent

def readNumber (text : List Char) : Option (Number × List Char) := do
  let (literal, rest) ← literal? text
  let value ← literal.value?
  some (value, rest)

end SqlTree.Json
