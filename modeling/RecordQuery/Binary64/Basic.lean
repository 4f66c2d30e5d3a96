namespace RecordQuery

/-!
# Binary floating-point numbers of 64 bits

A number is held by its 64 bits, so that two zeros and all the NaNs stay apart.
Everything else is exact arithmetic on whole numbers: the low 63 bits, read as a
number, are the *magnitude*, and a magnitude stands for a whole number of
*units* of size 2⁻¹⁰⁷⁴.  Comparing two numbers means comparing their units, which
also works between a floating-point number and a whole number, because a whole
number `n` is `n * 2 ^ 1074` units.
-/

/-- A floating-point number of 64 bits, given by its bits. -/
structure Binary64 where
  bits : UInt64
  deriving Repr, DecidableEq

namespace Binary64

/-- How many units make the number one, as a power of two. -/
def unitExponent : Nat := 1074

/-- How many units make the number one. -/
def unitsOfOne : Nat := Nat.pow 2 unitExponent

/-- The magnitude of the least number with the full precision: two to the 52. -/
def fractionSize : Nat := 0x10000000000000

/-- The value of the sign bit: two to the 63. -/
def signSize : Nat := 0x8000000000000000

/-- The magnitude of the infinities; greater ones are NaNs. -/
def infinityMagnitude : Nat := 2047 * fractionSize

/-- The bits without the sign, as a number. -/
def magnitude (number : Binary64) : Nat :=
  number.bits.toNat % signSize

/-- Whether the sign bit is set. -/
def isNegative (number : Binary64) : Bool :=
  decide (signSize ≤ number.bits.toNat)

/-- Whether the number is not a number. -/
def isNaN (number : Binary64) : Bool :=
  decide (infinityMagnitude < number.magnitude)

/-- Whether the number is neither infinite nor a NaN. -/
def isFinite (number : Binary64) : Bool :=
  decide (number.magnitude < infinityMagnitude)

/-- Whether the number is one of the two zeros. -/
def isZero (number : Binary64) : Bool :=
  number.magnitude == 0

/-- The number with a given sign and magnitude. -/
def ofMagnitude (negative : Bool) (magnitude : Nat) : Binary64 :=
  ⟨UInt64.ofNat (magnitude + if negative then signSize else 0)⟩

/-- The zero without a sign. -/
def zero : Binary64 := ofMagnitude false 0

/-- The infinity of a sign. -/
def infinity (negative : Bool) : Binary64 :=
  ofMagnitude negative infinityMagnitude

/-- The quiet NaN of a sign. -/
def notANumber (negative : Bool) : Binary64 :=
  ofMagnitude negative (infinityMagnitude + fractionSize / 2)

/--
How many units a magnitude stands for.

Magnitudes with exponent zero are their own unit count; above them the fraction
gets a leading one, and each further exponent doubles the step.  The infinite
magnitude gets more units than every finite one.
-/
def unitsOfMagnitude (magnitude : Nat) : Nat :=
  if magnitude < fractionSize then
    magnitude
  else
    (fractionSize + magnitude % fractionSize) *
      Nat.pow 2 (magnitude / fractionSize - 1)

/-- The value in units; the two zeros have the same. -/
def units (number : Binary64) : Int :=
  if number.isNegative then
    -(unitsOfMagnitude number.magnitude : Int)
  else
    unitsOfMagnitude number.magnitude

/-- Equality of values: a NaN differs from everything, the two zeros agree. -/
def agrees (left right : Binary64) : Bool :=
  !left.isNaN && !right.isNaN && left.units == right.units

theorem unitsOfOne_pos : 0 < unitsOfOne := by
  unfold unitsOfOne
  generalize unitExponent = exponent
  exact Nat.pow_pos Nat.zero_lt_two

/-- A number that is not a NaN agrees with itself. -/
theorem agrees_self
    {number : Binary64}
    (isNumber : number.isNaN = false) :
    number.agrees number = true := by
  simp [agrees, isNumber]

end Binary64

end RecordQuery
