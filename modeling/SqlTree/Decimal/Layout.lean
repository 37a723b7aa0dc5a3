import SqlTree.Decimal.Shortest

/-!
# Laying out a decimal

The digits of a number and the way they are written are two separate decisions. This file holds
the second one. A `Layout` says for which exponents of the leading digit a number is written
positionally, how an exponent is marked otherwise, and which of two equally near decimals is taken
when the digits are chosen.
-/

namespace SqlTree

/-- The decisions of one textual format for finite numbers. -/
structure Layout where
  /-- Is a leading digit of this exponent written positionally? -/
  isPositional : Int → Bool
  positiveMark : String
  negativeMark : String
  tie : Tie

namespace Layout

/--
Positional text of `digits * 10 ^ exponent`. A fractional part is always written, so that the text
differs from the text of an integer.
-/
def positional (digits : List Char) (exponent : Int) : List Char :=
  if exponent ≥ 0 then digits ++ List.replicate exponent.toNat '0' ++ ['.', '0']
  else
    let places := (-exponent).toNat
    if places < digits.length then
      digits.take (digits.length - places) ++ '.' :: digits.drop (digits.length - places)
    else '0' :: '.' :: List.replicate (places - digits.length) '0' ++ digits

def scientific (layout : Layout) (digits : List Char) (leading : Int) : List Char :=
  let mantissa :=
    match digits with
    | [] => []
    | [digit] => [digit]
    | digit :: rest => digit :: '.' :: rest
  let mark := if leading ≥ 0 then layout.positiveMark else layout.negativeMark
  mantissa ++ mark.toList ++ Nat.toDigits 10 leading.natAbs

def write (layout : Layout) (value : Binary64) : List Char :=
  let decimal := Decimal.shortest layout.tie value
  let digits := Nat.toDigits 10 decimal.digits
  let leading := decimal.exponent + digits.length - 1
  let sign := if value.isNegative then ['-'] else []
  if layout.isPositional leading then sign ++ positional digits decimal.exponent
  else sign ++ layout.scientific digits leading

end Layout

end SqlTree
