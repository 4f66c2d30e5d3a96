import Mathlib.Algebra.Ring.Nat
import RecordQuery.Decimal.Whole
import RecordQuery.Text.Blank

namespace RecordQuery

/-!
# Written whole numbers

The digits of a number read as the number again, with or without zeros in front
and with a sign where there is one (`int64?_signedText`).  An unsigned number is
read from exactly the characters that write it (`uint64?_eq_some_iff`).  No
written number holds a blank, so trimming leaves it alone.
-/

/-- The digits are the code points from 48 to 57. -/
theorem Decimal.toNat_bounds_of_isDigit
    {character : Char}
    (isDigit : Decimal.isDigit character = true) :
    48 ≤ character.toNat ∧ character.toNat ≤ 57 := by
  simp only [Decimal.isDigit, Bool.and_eq_true, decide_eq_true_eq,
    Char.le_def, UInt32.le_iff_toNat_le] at isDigit
  exact isDigit

/-- No digit is blank. -/
theorem Text.isBlank_of_isDigit
    {character : Char}
    (isDigit : Decimal.isDigit character = true) :
    Text.isBlank character = false := by
  have bounds := Decimal.toNat_bounds_of_isDigit isDigit
  simp only [Text.isBlank, Text.blankRanges, List.any_cons, List.any_nil,
    Bool.or_false, Bool.or_eq_false_iff, Bool.and_eq_false_iff,
    decide_eq_false_iff_not]
  omega

theorem Text.isSolid_of_digits
    {characters : List Char}
    (allDigits :
      ∀ character ∈ characters, Decimal.isDigit character = true) :
    Text.IsSolid characters :=
  fun character member => Text.isBlank_of_isDigit (allDigits character member)

namespace Decimal

theorem isDigit_eq (character : Char) :
    isDigit character = character.isDigit :=
  rfl

/-- A run of digits ends where something else begins. -/
theorem run_of_digits
    {run rest : List Char}
    (allDigits : ∀ character ∈ run, isDigit character = true)
    (ends :
      ∀ character, rest.head? = some character →
        isDigit character = false) :
    (run ++ rest).takeWhile isDigit = run ∧
      (run ++ rest).dropWhile isDigit = rest := by
  rw [List.takeWhile_append_of_pos allDigits,
    List.dropWhile_append_of_pos allDigits]
  cases rest with
  | nil =>
      simp
  | cons character others =>
      simp [ends character rfl]

theorem ofDigits_eq (characters : List Char) :
    ofDigits characters = Nat.ofDigitChars 10 characters 0 :=
  rfl

/-- Further digits move a number to the left and add to it. -/
theorem ofDigits_append (left right : List Char) :
    ofDigits (left ++ right) =
      10 ^ right.length * ofDigits left + ofDigits right := by
  rw [ofDigits_eq, Nat.ofDigitChars_append,
    Nat.ofDigitChars_eq_ofDigitChars_zero, ofDigits_eq, ofDigits_eq]

theorem ofDigits_replicate_zero (count : Nat) :
    ofDigits (List.replicate count '0') = 0 := by
  rw [ofDigits_eq, Nat.ofDigitChars_replicate_zero, Nat.mul_zero]

@[simp] theorem ofDigits_digits (value : Nat) :
    ofDigits (digits value) = value :=
  Nat.ofDigitChars_ten_toDigits

theorem isDigit_of_mem_digits
    {value : Nat}
    {character : Char}
    (member : character ∈ digits value) :
    isDigit character = true := by
  rw [isDigit_eq]
  exact Nat.isDigit_of_mem_toDigits (by decide) (Nat.le_refl 10) member

theorem isDigit_of_mem_padded
    {width value : Nat}
    {character : Char}
    (member : character ∈ padded width value) :
    isDigit character = true := by
  rcases List.mem_append.mp member with isZero | inDigits
  · rw [List.eq_of_mem_replicate isZero]
    decide
  · exact isDigit_of_mem_digits inDigits

@[simp] theorem isSolid_digits (value : Nat) : Text.IsSolid (digits value) :=
  Text.isSolid_of_digits fun _ => isDigit_of_mem_digits

@[simp] theorem isSolid_padded (width value : Nat) :
    Text.IsSolid (padded width value) :=
  Text.isSolid_of_digits fun _ => isDigit_of_mem_padded

/-- Zeros in front do not count. -/
@[simp] theorem ofDigits_padded (width value : Nat) :
    ofDigits (padded width value) = value := by
  rw [padded, ofDigits_append, ofDigits_replicate_zero, ofDigits_digits]
  omega

/-- Digits, at least one of them, that write a number. -/
structure IsNumeral (characters : List Char) (value : Nat) : Prop where
  notEmpty : characters ≠ []
  allDigits : ∀ character ∈ characters, character.isDigit = true
  writes : Nat.ofDigitChars 10 characters 0 = value

/-- A number that is written without a sign or with a plus. -/
inductive IsCount : List Char → Nat → Prop where
  | bare
      {characters : List Char}
      {value : Nat}
      (numeral : IsNumeral characters value) :
      IsCount characters value
  | plus
      {characters : List Char}
      {value : Nat}
      (numeral : IsNumeral characters value) :
      IsCount ('+' :: characters) value

theorem natural?_eq_some_iff
    {characters : List Char}
    {value : Nat} :
    natural? characters = some value ↔ IsNumeral characters value := by
  unfold natural?
  split
  next isRun =>
    rw [Bool.and_eq_true, Bool.not_eq_true', List.isEmpty_eq_false_iff,
      List.all_eq_true] at isRun
    rw [Option.some.injEq, ofDigits_eq]
    exact ⟨fun writes => ⟨isRun.1, isRun.2, writes⟩,
      fun numeral => numeral.writes⟩
  next notRun =>
    refine iff_of_false (by simp) fun numeral => notRun ?_
    rw [Bool.and_eq_true, Bool.not_eq_true', List.isEmpty_eq_false_iff,
      List.all_eq_true]
    exact ⟨numeral.notEmpty, numeral.allDigits⟩

theorem isNumeral_digits (value : Nat) : IsNumeral (digits value) value where
  notEmpty := Nat.toDigits_ne_nil
  allDigits := fun _ => isDigit_of_mem_digits
  writes := ofDigits_digits value

theorem natural?_digits (value : Nat) :
    natural? (digits value) = some value :=
  natural?_eq_some_iff.mpr (isNumeral_digits value)

/-- A plus is no digit. -/
theorem not_isNumeral_plus
    {characters : List Char}
    {value : Nat} :
    ¬IsNumeral ('+' :: characters) value := by
  intro numeral
  exact absurd (numeral.allDigits '+' List.mem_cons_self) (by decide)

/-- A number is read from the characters that write it, if it is not too big. -/
theorem uint64?_eq_some_iff {text : String} {count : UInt64} :
    uint64? text = some count ↔ IsCount text.toList count.toNat := by
  -- The sign apart, both forms are read by the same reader and range.
  have inRange (characters : List Char) :
      ((natural? characters).bind fun value =>
          if value < UInt64.size then some (UInt64.ofNat value) else none) =
            some count ↔
        IsNumeral characters count.toNat := by
    rw [Option.bind_eq_some_iff, ← natural?_eq_some_iff]
    constructor
    · rintro ⟨value, isRead, kept⟩
      split at kept
      next small =>
        rw [Option.some.injEq] at kept
        rw [← kept, UInt64.toNat_ofNat_of_lt' small]
        exact isRead
      next =>
        exact absurd kept (by simp)
    · intro isRead
      refine ⟨count.toNat, isRead, ?_⟩
      rw [if_pos count.toNat_lt, UInt64.ofNat_toNat]
  unfold uint64?
  dsimp only
  split
  next rest plus =>
    rw [inRange, plus]
    refine ⟨IsCount.plus, fun isCount => ?_⟩
    cases isCount with
    | bare numeral =>
        exact absurd numeral not_isNumeral_plus
    | plus numeral =>
        exact numeral
  next notPlus =>
    rw [inRange]
    refine ⟨IsCount.bare, fun isCount => ?_⟩
    generalize text.toList = characters at notPlus isCount
    cases isCount with
    | bare numeral =>
        exact numeral
    | plus numeral =>
        exact absurd rfl (notPlus _)

theorem toList_text (value : Nat) : (text value).toList = digits value :=
  String.toList_ofList

theorem isCount_text (value : Nat) : IsCount (text value).toList value := by
  rw [toList_text]
  exact .bare (isNumeral_digits value)

theorem trim_text (value : Nat) : Text.trim (text value) = text value := by
  apply Text.trim_eq_self_of_isSolid
  rw [toList_text]
  exact isSolid_digits value

/-- Characters write no more than one number. -/
theorem IsCount.unique
    {characters : List Char}
    {value other : Nat}
    (isCount : IsCount characters value)
    (otherCount : IsCount characters other) :
    value = other := by
  cases isCount with
  | bare numeral =>
      cases otherCount with
      | bare otherNumeral =>
          exact numeral.writes.symm.trans otherNumeral.writes
      | plus =>
          exact absurd numeral not_isNumeral_plus
  | plus numeral =>
      cases otherCount with
      | bare otherNumeral =>
          exact absurd otherNumeral not_isNumeral_plus
      | plus otherNumeral =>
          exact numeral.writes.symm.trans otherNumeral.writes

/-- Digits do not start with a sign. -/
theorem integer?_digits (value : Nat) :
    integer? (digits value) = some (value : Int) := by
  have read := natural?_digits value
  unfold integer?
  split
  next rest minus =>
    have isDigit := @isDigit_of_mem_digits value '-'
    rw [minus] at isDigit
    exact absurd (isDigit List.mem_cons_self) (by decide)
  next rest plus =>
    have isDigit := @isDigit_of_mem_digits value '+'
    rw [plus] at isDigit
    exact absurd (isDigit List.mem_cons_self) (by decide)
  next =>
    rw [read]
    rfl

theorem integer?_signedText (value : Int) :
    integer? (signedText value).toList = some value := by
  unfold signedText
  split
  next negative =>
    have magnitude : -(value.natAbs : Int) = value := by omega
    rw [String.toList_ofList, integer?, natural?_digits]
    exact congrArg some magnitude
  next notNegative =>
    rw [text, String.toList_ofList, integer?_digits, Option.some.injEq]
    omega

/-- A signed word reads back. -/
theorem int64?_signedText (value : Int64) :
    int64? (signedText value.toInt) = some value := by
  rw [int64?, integer?_signedText, Option.bind_some,
    if_pos ⟨Int64.minValue_le_toInt value, Int64.toInt_le value⟩,
    Int64.ofInt_toInt]

theorem trim_signedText (value : Int) :
    Text.trim (signedText value) = signedText value := by
  apply Text.trim_eq_self_of_isSolid
  unfold signedText text
  split
  next =>
    rw [String.toList_ofList, Text.isSolid_cons]
    exact ⟨by decide, isSolid_digits _⟩
  next =>
    rw [String.toList_ofList]
    exact isSolid_digits _

end Decimal

end RecordQuery
