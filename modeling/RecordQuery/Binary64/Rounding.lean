import RecordQuery.Binary64.Basic

namespace RecordQuery

namespace Binary64

/-!
# Rounding a ratio to the nearest number

`nearestMagnitude` gives the magnitude nearest to a ratio of whole numbers, and
the even one of two that are equally near.  The step between neighbours is
found from the length of the ratio in units; adding the rounded count to the
exponent lets a carry run into the next exponent by itself, and the result is
capped at infinity.
-/

/-- A quotient rounded to the nearest whole number, a half to the even one. -/
def roundHalfEven (numerator denominator : Nat) : Nat :=
  let quotient := numerator / denominator
  let remainder := numerator % denominator
  if 2 * remainder < denominator then
    quotient
  else if denominator < 2 * remainder then
    quotient + 1
  else if quotient % 2 = 0 then
    quotient
  else
    quotient + 1

/-- The magnitude nearest to `numerator / denominator`. -/
def nearestMagnitude (numerator denominator : Nat) : Nat :=
  let scaled := numerator * unitsOfOne
  let shift := Nat.log2 (scaled / denominator) - 52
  min infinityMagnitude
    (shift * fractionSize +
      roundHalfEven scaled (denominator * Nat.pow 2 shift))

/-- The magnitude nearest to `digits * 10 ^ exponent`, computed exactly. -/
def nearestDecimal (digits : Nat) (exponent : Int) : Nat :=
  if 0 ≤ exponent then
    nearestMagnitude (digits * Nat.pow 10 exponent.toNat) 1
  else
    nearestMagnitude digits (Nat.pow 10 (-exponent).toNat)

/--
The number nearest to `digits * 10 ^ exponent`.

A decimal with more than 310 places before its point is beyond the greatest
number, and one whose first place comes after more than 330 zeros is below half
the least: these are decided by their length alone, so that no huge power of
ten is computed.
-/
def ofDecimal (negative : Bool) (digits : Nat) (exponent : Int) : Binary64 :=
  let places : Int := (Nat.toDigits 10 digits).length + exponent
  if digits = 0 then
    ofMagnitude negative 0
  else if 310 < places then
    infinity negative
  else if places < -330 then
    ofMagnitude negative 0
  else
    ofMagnitude negative (nearestDecimal digits exponent)

/-- Rounding an exact multiple gives the multiple. -/
theorem roundHalfEven_mul
    (quotient : Nat)
    {denominator : Nat}
    (positive : 0 < denominator) :
    roundHalfEven (quotient * denominator) denominator = quotient := by
  simp [roundHalfEven, positive]

end Binary64

end RecordQuery
