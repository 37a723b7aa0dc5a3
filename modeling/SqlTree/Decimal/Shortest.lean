import SqlTree.Decimal.Binary64

/-!
# The fewest digits that read back

A finite binary64 value stands for every real number that rounds to it. Those reals form an
interval whose ends lie halfway to the two neighbouring values, and the ends belong to it exactly
when the significand is even. This file finds the decimal of fewest digits inside that interval,
and among decimals of that length the one nearest to the value.

The search goes through the decimal grids `10 ^ (scale - digits)` from coarse to fine. If any point
of a grid lies in the interval, then one of the value's two neighbours on that grid does, so
testing the neighbours is enough. Seventeen digits always suffice; were none of the grids to hold a
point, the exact value would be returned. All comparisons are made in exact integer arithmetic.
-/

namespace SqlTree

structure Decimal where
  digits : Nat
  exponent : Int
  deriving DecidableEq, Repr

/-- Which of two equally near decimals is taken. -/
inductive Tie where
  | toEven
  | upward
  deriving DecidableEq, Repr

namespace Decimal

/-- Compares `left * 10 ^ leftPower` with `right * 2 ^ rightPower`. -/
def compareScaled (left : Nat) (leftPower : Int) (right : Nat) (rightPower : Int) : Ordering :=
  compare (left * Nat.pow 10 leftPower.toNat * Nat.pow 2 (-rightPower).toNat)
    (right * Nat.pow 2 rightPower.toNat * Nat.pow 10 (-leftPower).toNat)

/-- Does the decimal lie among the reals that round to the value? -/
def readsBack (value : Binary64) (decimal : Decimal) : Bool :=
  let below := 4 * value.significand - (if value.isNarrowBelow then 1 else 2)
  let above := 4 * value.significand + 2
  let endsIncluded := value.significand % 2 == 0
  let fromBelow := compareScaled decimal.digits decimal.exponent below (value.power - 2)
  let fromAbove := compareScaled decimal.digits decimal.exponent above (value.power - 2)
  (fromBelow == .gt || (endsIncluded && fromBelow == .eq)) &&
    (fromAbove == .lt || (endsIncluded && fromAbove == .eq))

def isBelowPower (value : Binary64) (scale : Int) : Bool :=
  compareScaled 1 scale value.significand value.power == .gt

def raiseScale (value : Binary64) : Nat → Int → Int
  | 0, scale => scale
  | steps + 1, scale =>
      if isBelowPower value scale then scale else raiseScale value steps (scale + 1)

/--
The least scale with the value below `10 ^ scale`. The start is an underestimate taken from the
binary logarithm, which is at most two steps away.
-/
def scaleOf (value : Binary64) : Int :=
  let binaryLog := (value.significand.log2 : Int) + value.power
  raiseScale value 4 (Int.fdiv (binaryLog * 30103) 100000 - 1)

/-- The greatest point of the grid `10 ^ exponent` at or below the value. -/
def floorOnGrid (value : Binary64) (exponent : Int) : Nat :=
  (value.significand * Nat.pow 2 value.power.toNat * Nat.pow 10 (-exponent).toNat) /
    (Nat.pow 2 (-value.power).toNat * Nat.pow 10 exponent.toNat)

/-- The value's neighbour on a grid that reads back, the nearer one if both do. -/
def onGrid? (tie : Tie) (value : Binary64) (exponent : Int) : Option Decimal :=
  let floor := floorOnGrid value exponent
  let lower : Decimal := ⟨floor, exponent⟩
  let upper : Decimal := ⟨floor + 1, exponent⟩
  match readsBack value lower, readsBack value upper with
  | false, false => none
  | true, false => some lower
  | false, true => some upper
  | true, true =>
      match compareScaled (2 * floor + 1) exponent (2 * value.significand) value.power with
      | .gt => some lower
      | .lt => some upper
      | .eq =>
          match tie with
          | .upward => some upper
          | .toEven => if floor % 2 == 0 then some lower else some upper

def exact (value : Binary64) : Decimal :=
  if value.power ≥ 0 then ⟨value.significand * Nat.pow 2 value.power.toNat, 0⟩
  else ⟨value.significand * Nat.pow 5 (-value.power).toNat, value.power⟩

def stripZeros : Nat → Decimal → Decimal
  | 0, decimal => decimal
  | steps + 1, decimal =>
      if decimal.digits != 0 && decimal.digits % 10 == 0 then
        stripZeros steps ⟨decimal.digits / 10, decimal.exponent + 1⟩
      else decimal

/-- The decimal of fewest digits that reads back as the given finite value. -/
def shortest (tie : Tie) (value : Binary64) : Decimal :=
  if value.isZero then ⟨0, 0⟩
  else
    let scale := scaleOf value
    let found := (List.range 17).findSome? fun count =>
      onGrid? tie value (scale - (count + 1 : Nat))
    stripZeros 20 (found.getD (exact value))

end Decimal

end SqlTree
