import RecordQuery.Binary64.Rounding

namespace RecordQuery

namespace Binary64

/-!
# The shortest decimal that reads back

`shortest` gives the decimal with the fewest digits that rounds to a given
magnitude, the nearest such decimal where several have that length, and the
greater of two equally near ones.  For every digit count the two neighbours of
the value on the decimal grid are tried; seventeen digits always suffice, and
the exact decimal stands behind them, so that the answer reads back in any case.
-/

/-- A decimal number `digits * 10 ^ exponent`. -/
structure Scaled where
  digits : Nat
  exponent : Int
  deriving Repr, DecidableEq

/-- How many decimal digits a number has. -/
def decimalLength (value : Nat) : Nat :=
  (Nat.toDigits 10 value).length

/-- The exponent of the first significant decimal place of a unit count. -/
def leadingExponent (units : Nat) : Int :=
  if unitsOfOne ≤ units then
    (decimalLength (units / unitsOfOne) : Int) - 1
  else
    -(decimalLength ((unitsOfOne - 1) / units) : Int)

/-- A unit count as a ratio, in steps of `10 ^ exponent`. -/
def stepsRatio (units : Nat) (exponent : Int) : Nat × Nat :=
  if 0 ≤ exponent then
    (units, unitsOfOne * Nat.pow 10 exponent.toNat)
  else
    (units * Nat.pow 10 (-exponent).toNat, unitsOfOne)

/-- The neighbours of a unit count on a decimal grid, the nearer one first. -/
def neighbours (units : Nat) (exponent : Int) : List Scaled :=
  let ratio := stepsRatio units exponent
  let below := ratio.1 / ratio.2
  let remainder := ratio.1 % ratio.2
  if remainder = 0 then
    [⟨below, exponent⟩]
  else if 2 * remainder < ratio.2 then
    [⟨below, exponent⟩, ⟨below + 1, exponent⟩]
  else
    [⟨below + 1, exponent⟩, ⟨below, exponent⟩]

/-- The decimals tried for a unit count, shorter ones first. -/
def candidates (units : Nat) : List Scaled :=
  (List.range 17).flatMap fun (further : Nat) =>
    neighbours units (leadingExponent units - further)

/-- The exact decimal value of a unit count. -/
def exactDecimal (units : Nat) : Scaled :=
  ⟨units * Nat.pow 5 unitExponent, -unitExponent⟩

/-- A decimal without the zeros at the end of its digits. -/
def Scaled.stripped (decimal : Scaled) : Scaled :=
  if zeros : decimal.digits ≠ 0 ∧ decimal.digits % 10 = 0 then
    Scaled.stripped ⟨decimal.digits / 10, decimal.exponent + 1⟩
  else
    decimal
termination_by decimal.digits
decreasing_by
  have positive : decimal.digits ≠ 0 := zeros.1
  exact Nat.div_lt_self (Nat.pos_of_ne_zero positive) (by decide)

/-- The shortest decimal that rounds to a magnitude. -/
def shortest (magnitude : Nat) : Scaled :=
  let units := unitsOfMagnitude magnitude
  if units = 0 then
    ⟨0, 0⟩
  else
    let found :=
      (candidates units).find? fun decimal =>
        nearestDecimal decimal.digits decimal.exponent = magnitude
    (found.getD (exactDecimal units)).stripped

end Binary64

end RecordQuery
