import RecordQuery.Binary64.Printer
import RecordQuery.Binary64.Reader
import RecordQuery.Proofs.Nearest
import RecordQuery.Proofs.Numerals

namespace RecordQuery

namespace Binary64

/-!
# Plain floating-point numbers read back

The plain form of a finite number is read as the same number, bit by bit: its
digits, with or without a point, write the shortest decimal of its magnitude, the
number nearest to that decimal has this magnitude, and the sign in front tells
the two zeros apart (`read?_plain`).
-/

/-- Sign and magnitude are all there is to a number. -/
theorem ofMagnitude_magnitude (number : Binary64) :
    ofMagnitude number.isNegative number.magnitude = number := by
  have bound := number.bits.toNat_lt
  have sameBits :
      (number.magnitude + if number.isNegative then signSize else 0) =
        number.bits.toNat := by
    unfold magnitude isNegative signSize
    split_ifs with negative
    · rw [decide_eq_true_eq] at negative
      omega
    · rw [decide_eq_true_eq] at negative
      omega
  rw [ofMagnitude, sameBits, UInt64.ofNat_toNat]

section

variable {whole fraction : List Char}
variable (wholeDigits : ∀ character ∈ whole, Decimal.isDigit character = true)
variable (fractionDigits :
  ∀ character ∈ fraction, Decimal.isDigit character = true)

include wholeDigits

/-- Digits without a point write a whole number. -/
theorem unsigned?_whole
    (negative : Bool)
    (notEmpty : whole ≠ []) :
    unsigned? negative whole =
      some (ofDecimal negative (Decimal.ofDigits whole) 0) := by
  have atEnd :
      ∀ character, ([] : List Char).head? = some character →
        Decimal.isDigit character = false := by
    simp
  have ⟨taken, dropped⟩ := Decimal.run_of_digits wholeDigits atEnd
  rw [List.append_nil] at taken dropped
  simp [unsigned?, taken, dropped, notEmpty, exponentPart?]

include fractionDigits

/-- The digits after a point lower the exponent by their number. -/
theorem unsigned?_fraction
    (negative : Bool)
    (notEmpty : whole ≠ []) :
    unsigned? negative (whole ++ '.' :: fraction) =
      some
        (ofDecimal negative (Decimal.ofDigits (whole ++ fraction))
          (-fraction.length)) := by
  have atPoint :
      ∀ character, ('.' :: fraction).head? = some character →
        Decimal.isDigit character = false := by
    simp only [List.head?_cons, Option.some.injEq, forall_eq']
    decide
  have atEnd :
      ∀ character, ([] : List Char).head? = some character →
        Decimal.isDigit character = false := by
    simp
  have ⟨taken, dropped⟩ := Decimal.run_of_digits wholeDigits atPoint
  have ⟨takenAfter, droppedAfter⟩ :=
    Decimal.run_of_digits fractionDigits atEnd
  rw [List.append_nil] at takenAfter droppedAfter
  simp [unsigned?, taken, dropped, takenAfter, droppedAfter, notEmpty,
    exponentPart?]

end

section

variable (digits : Nat)

theorem unsigned?_zeros (negative : Bool) (zeros : Nat) :
    unsigned? negative
        (Decimal.digits digits ++ List.replicate zeros '0') =
      some (ofMagnitude negative (nearestDecimal digits zeros)) := by
  have allDigits :
      ∀ character ∈ Decimal.digits digits ++ List.replicate zeros '0',
        Decimal.isDigit character = true := by
    intro character member
    rcases List.mem_append.mp member with inDigits | isZero
    · exact Decimal.isDigit_of_mem_digits inDigits
    · rw [List.eq_of_mem_replicate isZero]
      decide
  have notEmpty :
      Decimal.digits digits ++ List.replicate zeros '0' ≠ [] :=
    List.append_ne_nil_of_left_ne_nil Nat.toDigits_ne_nil _
  rw [unsigned?_whole allDigits negative notEmpty, ofDecimal_eq,
    Decimal.ofDigits_append, Decimal.ofDigits_replicate_zero,
    Decimal.ofDigits_digits, List.length_replicate, Nat.add_zero,
    nearestDecimal_pow_mul]

/-- A point among the digits. -/
theorem unsigned?_inside
    (negative : Bool)
    {places : Nat}
    (inside : places < (Decimal.digits digits).length) :
    unsigned? negative
        ((Decimal.digits digits).take
            ((Decimal.digits digits).length - places) ++
          '.' :: (Decimal.digits digits).drop
            ((Decimal.digits digits).length - places)) =
      some (ofMagnitude negative (nearestDecimal digits (-places))) := by
  have placesAfter :
      ((Decimal.digits digits).drop
        ((Decimal.digits digits).length - places)).length = places := by
    rw [List.length_drop]
    omega
  rw [unsigned?_fraction
      (fun _ member =>
        Decimal.isDigit_of_mem_digits (List.mem_of_mem_take member))
      (fun _ member =>
        Decimal.isDigit_of_mem_digits (List.mem_of_mem_drop member))
      negative
      (List.ne_nil_of_length_pos (by rw [List.length_take]; omega)),
    List.take_append_drop, Decimal.ofDigits_digits, placesAfter,
    ofDecimal_eq]

/-- A point before the digits, with zeros between them. -/
theorem unsigned?_before
    (negative : Bool)
    {places : Nat}
    (before : (Decimal.digits digits).length ≤ places) :
    unsigned? negative
        (['0'] ++ '.' ::
          (List.replicate (places - (Decimal.digits digits).length) '0' ++
            Decimal.digits digits)) =
      some (ofMagnitude negative (nearestDecimal digits (-places))) := by
  have isPadded :
      List.replicate (places - (Decimal.digits digits).length) '0' ++
          Decimal.digits digits =
        Decimal.padded places digits := rfl
  have placesAfter : (Decimal.padded places digits).length = places := by
    rw [Decimal.padded, List.length_append, List.length_replicate]
    omega
  have zeroDigit : ∀ character ∈ ['0'], Decimal.isDigit character = true :=
    List.forall_mem_singleton.mpr (by decide)
  rw [isPadded,
    unsigned?_fraction zeroDigit
      (fun _ member => Decimal.isDigit_of_mem_padded member)
      negative (List.cons_ne_nil _ _),
    placesAfter, Decimal.ofDigits_append, Decimal.ofDigits_padded,
    show Decimal.ofDigits ['0'] = 0 by decide, Nat.mul_zero, Nat.zero_add,
    ofDecimal_eq]

end

/-- Positional notation is read as the number nearest to the decimal. -/
theorem unsigned?_positional (negative : Bool) (decimal : Scaled) :
    unsigned? negative (positional decimal) =
      some
        (ofMagnitude negative
          (nearestDecimal decimal.digits decimal.exponent)) := by
  unfold positional
  dsimp only
  split
  next notNegative =>
    obtain ⟨zeros, isZeros⟩ := Int.eq_ofNat_of_zero_le notNegative
    rw [isZeros, Int.toNat_natCast]
    exact unsigned?_zeros decimal.digits negative zeros
  next isNegative =>
    obtain ⟨places, isPlaces⟩ :
        ∃ places : Nat, decimal.exponent = -places :=
      ⟨decimal.exponent.natAbs, by omega⟩
    rw [isPlaces, Int.neg_neg, Int.toNat_natCast]
    split
    next inside =>
      exact unsigned?_inside decimal.digits negative inside
    next notInside =>
      exact unsigned?_before decimal.digits negative
        (Nat.le_of_not_lt notInside)

/-- Nothing but a digit or a point begins a number without a sign. -/
theorem unsigned?_eq_none
    {first : Char}
    (notDigit : Decimal.isDigit first = false)
    (notPoint : first ≠ '.')
    (negative : Bool)
    (rest : List Char) :
    unsigned? negative (first :: rest) = none := by
  have noWhole : (first :: rest).takeWhile Decimal.isDigit = [] := by
    simp [notDigit]
  have allAfter :
      (first :: rest).dropWhile Decimal.isDigit = first :: rest := by
    simp [notDigit]
  simp [unsigned?, noWhole, allAfter, notPoint]

theorem mem_positional
    {decimal : Scaled}
    {character : Char}
    (member : character ∈ positional decimal) :
    Decimal.isDigit character = true ∨ character = '.' := by
  have zeroDigit : Decimal.isDigit '0' = true := by decide
  have inDigits :
      character ∈ Decimal.digits decimal.digits →
        Decimal.isDigit character = true :=
    Decimal.isDigit_of_mem_digits
  unfold positional at member
  dsimp only at member
  split at member
  next =>
    rcases List.mem_append.mp member with ofDigits | ofZeros
    · exact Or.inl (inDigits ofDigits)
    · exact Or.inl (List.eq_of_mem_replicate ofZeros ▸ zeroDigit)
  next =>
  split at member
  next =>
    rcases List.mem_append.mp member with before | after
    · exact Or.inl (inDigits (List.mem_of_mem_take before))
    · rcases List.mem_cons.mp after with isPoint | after
      · exact Or.inr isPoint
      · exact Or.inl (inDigits (List.mem_of_mem_drop after))
  next =>
    rw [List.mem_cons, List.mem_cons, List.mem_append] at member
    rcases member with isZero | isPoint | ofZeros | ofDigits
    · exact Or.inl (isZero ▸ zeroDigit)
    · exact Or.inr isPoint
    · exact Or.inl (List.eq_of_mem_replicate ofZeros ▸ zeroDigit)
    · exact Or.inl (inDigits ofDigits)

section

variable {number : Binary64}
variable (isFinite : number.isFinite = true)

include isFinite

theorem plain_eq :
    number.plain =
      String.ofList
        ((if number.isNegative then ['-'] else []) ++
          positional (shortest number.magnitude)) := by
  have notNaN : number.isNaN = false := by
    simp only [Binary64.isFinite, isNaN, decide_eq_true_eq,
      decide_eq_false_iff_not] at isFinite ⊢
    omega
  simp [plain, written, notNaN, isFinite]

/-- The digits of a finite number are read as the number, given its sign. -/
theorem signless?_positional :
    signless? number.isNegative (positional (shortest number.magnitude)) =
      some number := by
  have finiteMagnitude : number.magnitude < infinityMagnitude := by
    simpa [Binary64.isFinite] using isFinite
  rw [signless?, unsigned?_positional,
    nearestDecimal_shortest finiteMagnitude, ofMagnitude_magnitude,
    Option.some_or]

/-- The plain form of a finite number is read as the number. -/
theorem read?_plain : read? number.plain = some number := by
  have isRead := signless?_positional isFinite
  have withoutSign (negative : Bool) :=
    unsigned?_positional negative (shortest number.magnitude)
  rw [plain_eq isFinite, read?, String.toList_ofList]
  cases sign : number.isNegative with
  | true =>
      rw [sign] at isRead
      exact isRead
  | false =>
      rw [sign] at isRead
      simp only [Bool.false_eq_true, ↓reduceIte, List.nil_append]
      -- The digits are readable, so they do not begin with a sign.
      split
      next rest minus =>
        rw [minus] at withoutSign
        exact absurd (withoutSign true)
          (by rw [unsigned?_eq_none (by decide) (by decide)]; simp)
      next rest plus =>
        rw [plus] at withoutSign
        exact absurd (withoutSign true)
          (by rw [unsigned?_eq_none (by decide) (by decide)]; simp)
      next =>
        exact isRead

/-- No blank stands in the plain form. -/
theorem trim_plain : Text.trim number.plain = number.plain := by
  have solidBody :
      Text.IsSolid (positional (shortest number.magnitude)) := by
    intro character member
    rcases mem_positional member with isDigit | rfl
    · exact Text.isBlank_of_isDigit isDigit
    · decide
  apply Text.trim_eq_self_of_isSolid
  rw [plain_eq isFinite, String.toList_ofList, Text.isSolid_append]
  refine ⟨?_, solidBody⟩
  split
  · simp only [Text.isSolid_cons, Text.isSolid_nil, and_true]
    decide
  · exact Text.isSolid_nil

end

end Binary64

end RecordQuery
