import Mathlib.Algebra.Order.Ring.Nat
import RecordQuery.Binary64.Shortest

namespace RecordQuery

namespace Binary64

/-!
# The number nearest to a decimal

What is read as a floating-point number depends on the value of a decimal alone:
a common factor of a ratio does not change the nearest magnitude, and neither
does moving a zero between the digits and the exponent.  The units of a finite
magnitude are nearest to that magnitude, so the decimal written for it reads back
(`nearestDecimal_shortest`), also where none of the shorter ones tried did.  The
two decisions by length that spare huge powers of ten agree with the arithmetic
(`ofDecimal_eq`).
-/

section

variable {factor numerator denominator : Nat}

theorem roundHalfEven_mul_mul
    (positive : 0 < factor) :
    roundHalfEven (factor * numerator) (factor * denominator) =
      roundHalfEven numerator denominator := by
  have double :
      2 * (factor * (numerator % denominator)) =
        factor * (2 * (numerator % denominator)) :=
    Nat.mul_left_comm _ _ _
  simp only [roundHalfEven, Nat.mul_div_mul_left _ _ positive,
    Nat.mul_mod_mul_left, double, Nat.mul_lt_mul_left positive]

/-- A ratio can be reduced before it is rounded. -/
theorem nearestMagnitude_mul_mul
    (positive : 0 < factor) :
    nearestMagnitude (factor * numerator) (factor * denominator) =
      nearestMagnitude numerator denominator := by
  simp only [nearestMagnitude, Nat.mul_assoc,
    Nat.mul_div_mul_left _ _ positive, roundHalfEven_mul_mul positive]

end

theorem le_roundHalfEven (numerator denominator : Nat) :
    numerator / denominator ≤ roundHalfEven numerator denominator := by
  simp only [roundHalfEven]
  split_ifs <;> omega

theorem unitsOfOne_eq : unitsOfOne = 2 ^ unitExponent := by
  unfold unitsOfOne
  simp only [Nat.pow_eq]

theorem fractionSize_eq : fractionSize = 2 ^ 52 := by
  decide

/-- The magnitudes below full precision need no shift. -/
theorem log2_sub_of_lt
    {magnitude : Nat}
    (less : magnitude < fractionSize) :
    Nat.log2 magnitude - 52 = 0 := by
  by_cases zero : magnitude = 0
  · rw [zero, Nat.log2_zero]
  · rw [fractionSize_eq, ← Nat.log2_lt zero] at less
    omega

/-- A magnitude of full precision is shifted by its exponent less one. -/
theorem log2_shifted_sub
    {fraction : Nat}
    (less : fraction < fractionSize)
    (shift : Nat) :
    Nat.log2 ((fractionSize + fraction) * 2 ^ shift) - 52 = shift := by
  rw [fractionSize_eq] at less ⊢
  have positive : 0 < 2 ^ shift := Nat.two_pow_pos shift
  have place :
      Nat.log2 ((2 ^ 52 + fraction) * 2 ^ shift) = 52 + shift := by
    rw [Nat.log2_eq_iff (Nat.mul_ne_zero (by omega) (by omega))]
    constructor
    · rw [Nat.pow_add]
      exact Nat.mul_le_mul_right _ (Nat.le_add_right _ _)
    · rw [Nat.add_right_comm, Nat.pow_add]
      exact (Nat.mul_lt_mul_right positive).mpr (by omega)
  omega

/-- The units of a finite magnitude are nearest to it. -/
theorem nearestMagnitude_units
    {magnitude : Nat}
    (isFinite : magnitude < infinityMagnitude) :
    nearestMagnitude (unitsOfMagnitude magnitude) unitsOfOne =
      magnitude := by
  have inUnits :
      nearestMagnitude (unitsOfMagnitude magnitude) unitsOfOne =
        min infinityMagnitude
          ((Nat.log2 (unitsOfMagnitude magnitude) - 52) * fractionSize +
            roundHalfEven (unitsOfMagnitude magnitude)
              (2 ^ (Nat.log2 (unitsOfMagnitude magnitude) - 52))) := by
    simp only [nearestMagnitude, Nat.mul_comm _ unitsOfOne,
      Nat.mul_div_cancel_left _ unitsOfOne_pos,
      roundHalfEven_mul_mul unitsOfOne_pos, Nat.pow_eq]
  rw [inUnits]
  -- Below full precision every unit is a step; above it a step is as many units
  -- as the shift takes off again.
  by_cases less : magnitude < fractionSize
  · have ownUnits : unitsOfMagnitude magnitude = magnitude := if_pos less
    have exact := roundHalfEven_mul magnitude Nat.one_pos
    rw [Nat.mul_one] at exact
    rw [ownUnits, log2_sub_of_lt less, Nat.pow_zero, exact]
    omega
  · have parts := Nat.div_add_mod magnitude fractionSize
    have fractionFits : magnitude % fractionSize < fractionSize :=
      Nat.mod_lt _ (by decide)
    obtain ⟨exponent, isNext⟩ :
        ∃ exponent, magnitude / fractionSize = exponent + 1 :=
      Nat.exists_eq_add_one.mpr
        (Nat.div_pos (Nat.le_of_not_lt less) (by decide))
    have fullUnits :
        unitsOfMagnitude magnitude =
          (fractionSize + magnitude % fractionSize) *
            2 ^ (magnitude / fractionSize - 1) := if_neg less
    rw [fullUnits, log2_shifted_sub fractionFits,
      roundHalfEven_mul _ (Nat.two_pow_pos _), isNext,
      Nat.add_sub_cancel, ← Nat.add_assoc, ← Nat.add_one_mul,
      Nat.mul_comm, ← isNext, parts]
    omega

theorem nearestDecimal_of_nonneg
    (digits exponent : Nat) :
    nearestDecimal digits exponent =
      nearestMagnitude (digits * 10 ^ exponent) 1 := by
  rw [nearestDecimal, if_pos (Int.natCast_nonneg exponent),
    Int.toNat_natCast, Nat.pow_eq]

theorem nearestDecimal_neg
    (digits places : Nat) :
    nearestDecimal digits (-places : Int) =
      nearestMagnitude digits (10 ^ places) := by
  by_cases zero : places = 0
  · rw [zero]
    simpa using nearestDecimal_of_nonneg digits 0
  · rw [nearestDecimal, if_neg (by omega), Int.neg_neg, Int.toNat_natCast,
      Nat.pow_eq]

/-- A zero can stand at the end of the digits or count in the exponent. -/
theorem nearestDecimal_ten_mul (digits : Nat) (exponent : Int) :
    nearestDecimal (10 * digits) exponent =
      nearestDecimal digits (exponent + 1) := by
  rcases Int.lt_or_le exponent 0 with negative | notNegative
  · obtain ⟨places, isNegative⟩ : ∃ places : Nat, exponent = -(places + 1) :=
      ⟨(-exponent - 1).toNat, by omega⟩
    have oneLess : -(places + 1 : Int) + 1 = -places := by omega
    rw [isNegative, oneLess, nearestDecimal_neg]
    have tenfold := nearestDecimal_neg (10 * digits) (places + 1)
    rw [Nat.pow_succ', nearestMagnitude_mul_mul (by decide)] at tenfold
    exact tenfold
  · obtain ⟨zeros, rfl⟩ := Int.eq_ofNat_of_zero_le notNegative
    have oneMore := nearestDecimal_of_nonneg digits (zeros + 1)
    rw [nearestDecimal_of_nonneg]
    rw [Nat.pow_succ', ← Nat.mul_assoc, Nat.mul_comm digits 10] at oneMore
    exact oneMore.symm

theorem nearestMagnitude_zero
    {denominator : Nat}
    (positive : 0 < denominator) :
    nearestMagnitude 0 denominator = 0 := by
  simp [nearestMagnitude, roundHalfEven, positive]

theorem nearestDecimal_zero (exponent : Int) :
    nearestDecimal 0 exponent = 0 := by
  unfold nearestDecimal
  split
  next =>
    rw [Nat.zero_mul, nearestMagnitude_zero Nat.one_pos]
  next =>
    exact nearestMagnitude_zero (Nat.pow_pos (by decide))

/-- The power of ten of an exponent can be written out in digits. -/
theorem nearestDecimal_pow_mul (zeros digits : Nat) :
    nearestDecimal (10 ^ zeros * digits) 0 = nearestDecimal digits zeros :=
  calc
    nearestDecimal (10 ^ zeros * digits) 0 =
        nearestMagnitude (10 ^ zeros * digits * 10 ^ 0) 1 :=
      nearestDecimal_of_nonneg _ 0
    _ = nearestMagnitude (digits * 10 ^ zeros) 1 := by
      rw [Nat.pow_zero, Nat.mul_one, Nat.mul_comm]
    _ = nearestDecimal digits zeros :=
      (nearestDecimal_of_nonneg digits zeros).symm

/-- Taking zeros off the end of the digits leaves the nearest number. -/
theorem nearestDecimal_stripped (decimal : Scaled) :
    nearestDecimal decimal.stripped.digits decimal.stripped.exponent =
      nearestDecimal decimal.digits decimal.exponent := by
  induction decimal using Scaled.stripped.induct with
  | case1 decimal zeros inductionHypothesis =>
      have tenfold : 10 * (decimal.digits / 10) = decimal.digits :=
        Nat.mul_div_cancel' (Nat.dvd_of_mod_eq_zero zeros.2)
      rw [Scaled.stripped, dif_pos zeros, inductionHypothesis,
        ← nearestDecimal_ten_mul, tenfold]
  | case2 decimal noZeros =>
      rw [Scaled.stripped, dif_neg noZeros]

/-- The exact decimal of a finite magnitude is nearest to it. -/
theorem nearestDecimal_exactDecimal
    {magnitude : Nat}
    (isFinite : magnitude < infinityMagnitude) :
    nearestDecimal (exactDecimal (unitsOfMagnitude magnitude)).digits
        (exactDecimal (unitsOfMagnitude magnitude)).exponent =
      magnitude := by
  have tenfold :
      10 ^ unitExponent = 5 ^ unitExponent * unitsOfOne := by
    rw [unitsOfOne_eq, ← Nat.mul_pow]
  rw [exactDecimal, nearestDecimal_neg, Nat.pow_eq, tenfold, Nat.mul_comm,
    nearestMagnitude_mul_mul (Nat.pow_pos (by decide)),
    nearestMagnitude_units isFinite]

theorem eq_zero_of_unitsOfMagnitude
    {magnitude : Nat}
    (noUnits : unitsOfMagnitude magnitude = 0) :
    magnitude = 0 := by
  unfold unitsOfMagnitude at noUnits
  split at noUnits
  next =>
    exact noUnits
  next =>
    have positive :
        0 < (fractionSize + magnitude % fractionSize) *
          Nat.pow 2 (magnitude / fractionSize - 1) :=
      Nat.mul_pos (Nat.add_pos_left (by decide) _) (Nat.two_pow_pos _)
    omega

/-- The decimal written for a finite magnitude reads back as it. -/
theorem nearestDecimal_shortest
    {magnitude : Nat}
    (isFinite : magnitude < infinityMagnitude) :
    nearestDecimal (shortest magnitude).digits
        (shortest magnitude).exponent =
      magnitude := by
  unfold shortest
  dsimp only
  split
  next noUnits =>
    rw [eq_zero_of_unitsOfMagnitude noUnits, nearestDecimal_zero]
  next =>
    rw [nearestDecimal_stripped]
    cases tried :
        (candidates (unitsOfMagnitude magnitude)).find? fun decimal =>
          nearestDecimal decimal.digits decimal.exponent = magnitude with
    | none =>
        exact nearestDecimal_exactDecimal isFinite
    | some decimal =>
        simpa using List.find?_some tried

/-- The magnitude nearest to a ratio has at least the ratio's exponent. -/
theorem le_nearestMagnitude
    {numerator denominator exponent : Nat}
    (positive : 0 < denominator)
    (large :
      2 ^ (exponent + 52) * denominator ≤ numerator * unitsOfOne) :
    min infinityMagnitude ((exponent + 1) * fractionSize) ≤
      nearestMagnitude numerator denominator := by
  have inRatio :
      2 ^ (exponent + 52) ≤ numerator * unitsOfOne / denominator :=
    (Nat.le_div_iff_mul_le positive).mpr large
  have nonzero : numerator * unitsOfOne / denominator ≠ 0 := by
    have powPositive := Nat.two_pow_pos (exponent + 52)
    omega
  have place := (Nat.le_log2 nonzero).mpr inRatio
  simp only [nearestMagnitude, Nat.pow_eq]
  obtain ⟨shift, isShift⟩ :
      ∃ shift,
        Nat.log2 (numerator * unitsOfOne / denominator) = shift + 52 :=
    ⟨_, (Nat.sub_add_cancel (by omega)).symm⟩
  rw [isShift, Nat.add_sub_cancel]
  -- What the shift leaves has 53 binary digits.
  have wholePart :
      fractionSize ≤
        roundHalfEven (numerator * unitsOfOne)
          (denominator * 2 ^ shift) := by
    apply Nat.le_trans _ (le_roundHalfEven _ _)
    rw [← Nat.div_div_eq_div_mul, fractionSize_eq,
      Nat.le_div_iff_mul_le (Nat.two_pow_pos shift), ← Nat.pow_add,
      Nat.add_comm, ← isShift]
    exact Nat.log2_self_le nonzero
  have enough : exponent * fractionSize ≤ shift * fractionSize :=
    Nat.mul_le_mul_right _ (by omega)
  rw [Nat.add_one_mul]
  exact min_le_min_left _ (Nat.add_le_add enough wholePart)

theorem two_pow_le : 2 ^ (2046 + 52) ≤ 10 ^ 310 * unitsOfOne := by
  decide +kernel

/-- A ratio with more than 310 places is rounded to infinity. -/
theorem nearestMagnitude_of_huge
    {numerator denominator places : Nat}
    (positive : 0 < denominator)
    (long : 310 ≤ places)
    (huge : 10 ^ places * denominator ≤ numerator) :
    nearestMagnitude numerator denominator = infinityMagnitude := by
  have longer : 10 ^ 310 ≤ 10 ^ places :=
    pow_le_pow_right₀ (by decide) long
  have large :
      2 ^ (2046 + 52) * denominator ≤ numerator * unitsOfOne :=
    calc
      2 ^ (2046 + 52) * denominator ≤
          10 ^ 310 * unitsOfOne * denominator :=
        Nat.mul_le_mul_right _ two_pow_le
      _ ≤ 10 ^ places * unitsOfOne * denominator :=
        Nat.mul_le_mul_right _ (Nat.mul_le_mul_right _ longer)
      _ = 10 ^ places * denominator * unitsOfOne :=
        Nat.mul_right_comm _ _ _
      _ ≤ numerator * unitsOfOne := Nat.mul_le_mul_right _ huge
  have isInfinite :
      min infinityMagnitude ((2046 + 1) * fractionSize) =
        infinityMagnitude := by
    decide
  have atLeast := le_nearestMagnitude positive large
  rw [isInfinite] at atLeast
  exact Nat.le_antisymm (Nat.min_le_left _ _) atLeast

/-- A ratio below half a unit is rounded to zero. -/
theorem nearestMagnitude_of_tiny
    {numerator denominator : Nat}
    (tiny : 2 * (numerator * unitsOfOne) < denominator) :
    nearestMagnitude numerator denominator = 0 := by
  have less : numerator * unitsOfOne < denominator := by omega
  simp [nearestMagnitude, roundHalfEven, Nat.div_eq_of_lt less,
    Nat.mod_eq_of_lt less, tiny]

theorem two_mul_unitsOfOne_le
    {places : Nat}
    (long : 331 ≤ places) :
    2 * unitsOfOne ≤ 10 ^ places := by
  have atLeast : 2 * unitsOfOne ≤ 10 ^ 331 := by
    decide +kernel
  exact Nat.le_trans atLeast (pow_le_pow_right₀ (by decide) long)

section

variable {digits : Nat}

theorem lt_pow_length : digits < 10 ^ (Nat.toDigits 10 digits).length :=
  (Nat.length_toDigits_le_iff (by decide) Nat.length_toDigits_pos).mp
    (Nat.le_refl _)

theorem pow_length_le
    (nonzero : digits ≠ 0)
    {places : Nat}
    (length : (Nat.toDigits 10 digits).length = places + 1) :
    10 ^ places ≤ digits := by
  by_cases zero : places = 0
  · rw [zero]
    omega
  · have longer : ¬(Nat.toDigits 10 digits).length ≤ places := by omega
    rw [Nat.length_toDigits_le_iff (by decide) (by omega)] at longer
    omega

/-- A decimal with more than 310 places before its point is infinite. -/
theorem nearestDecimal_of_long
    {exponent : Int}
    (nonzero : digits ≠ 0)
    (long : 310 < (Nat.toDigits 10 digits).length + exponent) :
    nearestDecimal digits exponent = infinityMagnitude := by
  obtain ⟨places, length⟩ :
      ∃ places, (Nat.toDigits 10 digits).length = places + 1 :=
    Nat.exists_eq_add_one.mpr Nat.length_toDigits_pos
  have atLeast := pow_length_le nonzero length
  rw [length] at long
  rcases Int.lt_or_le exponent 0 with negative | notNegative
  · obtain ⟨below, rfl⟩ : ∃ below : Nat, exponent = -below :=
      ⟨exponent.natAbs, by omega⟩
    have above : places - below + below = places := by omega
    rw [nearestDecimal_neg]
    apply nearestMagnitude_of_huge (Nat.pow_pos (by decide))
      (show 310 ≤ places - below by omega)
    rwa [← Nat.pow_add, above]
  · obtain ⟨zeros, rfl⟩ := Int.eq_ofNat_of_zero_le notNegative
    rw [nearestDecimal_of_nonneg]
    apply nearestMagnitude_of_huge Nat.one_pos
      (show 310 ≤ places + zeros by omega)
    rw [Nat.mul_one, Nat.pow_add]
    exact Nat.mul_le_mul_right _ atLeast

/-- A decimal that begins with more than 330 zeros is zero. -/
theorem nearestDecimal_of_short
    {exponent : Int}
    (short : (Nat.toDigits 10 digits).length + exponent < -330) :
    nearestDecimal digits exponent = 0 := by
  obtain ⟨places, rfl⟩ : ∃ places : Nat, exponent = -places :=
    ⟨exponent.natAbs, by omega⟩
  obtain ⟨zeros, isLonger⟩ :
      ∃ zeros, places = (Nat.toDigits 10 digits).length + zeros :=
    Nat.exists_eq_add_of_le (by omega)
  rw [nearestDecimal_neg]
  apply nearestMagnitude_of_tiny
  have unitsPos := unitsOfOne_pos
  calc
    2 * (digits * unitsOfOne) = digits * (2 * unitsOfOne) :=
      Nat.mul_left_comm _ _ _
    _ < 10 ^ (Nat.toDigits 10 digits).length * (2 * unitsOfOne) :=
      (Nat.mul_lt_mul_right (by omega)).mpr lt_pow_length
    _ ≤ 10 ^ (Nat.toDigits 10 digits).length * 10 ^ zeros :=
      Nat.mul_le_mul_left _ (two_mul_unitsOfOne_le (by omega))
    _ = 10 ^ places := by
      rw [isLonger, Nat.pow_add]

end

/--
The two decisions by length are right: what is read as a decimal is always the
number nearest to it.
-/
theorem ofDecimal_eq (negative : Bool) (digits : Nat) (exponent : Int) :
    ofDecimal negative digits exponent =
      ofMagnitude negative (nearestDecimal digits exponent) := by
  unfold ofDecimal
  dsimp only
  split
  next zero =>
    rw [zero, nearestDecimal_zero]
  next nonzero =>
  split
  next long =>
    rw [nearestDecimal_of_long nonzero long, infinity]
  next =>
  split
  next short =>
    rw [nearestDecimal_of_short short]
  next =>
    rfl

end Binary64

end RecordQuery
