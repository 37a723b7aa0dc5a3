/-!
# Binary64 values

A binary64 value is kept as its 64 bits: one sign bit, eleven bits of exponent and fifty-two bits
of fraction. Keeping the bits, and not a machine float, makes equality of values decidable, and it
lets decimal text be computed with exact integer arithmetic.

A finite value has the magnitude `significand * 2 ^ power`. The least normal exponent and the
exponent of subnormal values coincide, so both start at the power `-1074`.
-/

namespace SqlTree

structure Binary64 where
  bits : UInt64
  deriving DecidableEq, Repr, Inhabited

namespace Binary64

def ofFloat (value : Float) : Binary64 := ⟨value.toBits⟩

/-- Is the sign bit set? It is for `-0.0` as well. -/
def isNegative (value : Binary64) : Bool := value.bits >>> 63 != 0

def exponentField (value : Binary64) : Nat := ((value.bits >>> 52) &&& 0x7FF).toNat

def fraction (value : Binary64) : Nat := (value.bits &&& 0xFFFFFFFFFFFFF).toNat

/-- Every value but the infinities and NaN, which use up the greatest exponent. -/
def isFinite (value : Binary64) : Bool := value.exponentField != 0x7FF

def isNaN (value : Binary64) : Bool := value.exponentField == 0x7FF && value.fraction != 0

def isZero (value : Binary64) : Bool := value.exponentField == 0 && value.fraction == 0

/-- The integer factor of a finite value's magnitude. -/
def significand (value : Binary64) : Nat :=
  if value.exponentField == 0 then value.fraction else 0x10000000000000 + value.fraction

def power (value : Binary64) : Int :=
  if value.exponentField == 0 then -1074 else (value.exponentField : Int) - 1075

/--
Is the gap to the value below half the gap to the value above? This happens at the powers of two
above the least normal one.
-/
def isNarrowBelow (value : Binary64) : Bool := value.fraction == 0 && value.exponentField > 1

/-- Equality of finite values as numbers: the two zeros are equal. -/
def equalAsNumber (left right : Binary64) : Bool :=
  left == right || (left.isZero && right.isZero)

end Binary64

end SqlTree
