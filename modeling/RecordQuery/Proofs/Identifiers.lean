import RecordQuery.Text.Blank
import RecordQuery.Uuid

namespace RecordQuery

/-!
# Written identifiers read back

The hyphenated form of an identifier is read as the identifier: its 32 digits
write the number of 128 bits, and the four hyphens stand where they are expected
(`read?_text`).
-/

namespace Uuid

/-- What the sixteen digits are worth, and that none of them is blank. -/
theorem digitChar_spec {digit : Nat} (isDigit : digit < 16) :
    hexValue? (Nat.digitChar digit) = some digit ∧
      Text.isBlank (Nat.digitChar digit) = false := by
  have onDigits :
      ∀ digit : Fin 16,
        hexValue? (Nat.digitChar digit) = some digit.val ∧
          Text.isBlank (Nat.digitChar digit) = false := by
    decide
  exact onDigits ⟨digit, isDigit⟩

theorem ofHex?_append_digit
    {characters : List Char}
    {value digit : Nat}
    (before : ofHex? characters = some value)
    (isDigit : digit < 16) :
    ofHex? (characters ++ [Nat.digitChar digit]) =
      some (16 * value + digit) := by
  rw [ofHex?] at before
  simp [ofHex?, List.foldlM_append, before, (digitChar_spec isDigit).1]

/-- Hexadecimal digits write their number, and none of them is blank. -/
theorem toDigits_spec (value : Nat) :
    ofHex? (Nat.toDigits 16 value) = some value ∧
      Text.IsSolid (Nat.toDigits 16 value) := by
  induction value using Nat.strongRecOn with
  | ind value inductionHypothesis =>
      by_cases small : value < 16
      · rw [Nat.toDigits_of_lt_base small]
        have isRead := @ofHex?_append_digit [] 0 value rfl small
        have notBlank := (digitChar_spec small).2
        simpa [notBlank] using isRead
      · have large : 16 ≤ value := Nat.le_of_not_lt small
        have isDigit : value % 16 < 16 := Nat.mod_lt _ (by decide)
        obtain ⟨isRead, solid⟩ := inductionHypothesis (value / 16) (by omega)
        rw [Nat.toDigits_of_base_le (by decide) large,
          ofHex?_append_digit isRead isDigit, Nat.div_add_mod]
        simp [solid, (digitChar_spec isDigit).2]

theorem ofHex?_zeros (zeros : Nat) (characters : List Char) :
    ofHex? (List.replicate zeros '0' ++ characters) = ofHex? characters := by
  induction zeros with
  | zero =>
      rfl
  | succ zeros inductionHypothesis =>
      rw [← inductionHypothesis]
      rfl

section

variable (identifier : Uuid)

theorem length_hexDigits : identifier.hexDigits.length = 32 := by
  have short : (Nat.toDigits 16 identifier.value.toNat).length ≤ 32 :=
    (Nat.length_toDigits_le_iff (by decide) (by decide)).mpr
      identifier.value.isLt
  simp only [hexDigits, List.length_append, List.length_replicate]
  omega

/-- The 32 digits of an identifier are read as the identifier. -/
theorem bare?_hexDigits : bare? identifier.hexDigits = some identifier := by
  rw [bare?, if_pos identifier.length_hexDigits, hexDigits, ofHex?_zeros,
    (toDigits_spec identifier.value.toNat).1]
  simp

theorem isSolid_hexDigits : Text.IsSolid identifier.hexDigits := by
  have zerosSolid (zeros : Nat) :
      Text.IsSolid (List.replicate zeros '0') := by
    intro character member
    rw [List.eq_of_mem_replicate member]
    decide
  rw [hexDigits, Text.isSolid_append]
  exact ⟨zerosSolid _, (toDigits_spec _).2⟩

end

/-- Five groups of digits with hyphens between them lose the hyphens. -/
theorem withoutHyphens?_groups
    {first second third fourth fifth : List Char}
    (firstLength : first.length = 8)
    (secondLength : second.length = 4)
    (thirdLength : third.length = 4)
    (fourthLength : fourth.length = 4)
    (fifthLength : fifth.length = 12) :
    withoutHyphens?
        (first ++ '-' :: (second ++ '-' :: (third ++
          '-' :: (fourth ++ '-' :: fifth)))) =
      some (first ++ second ++ third ++ fourth ++ fifth) := by
  simp [withoutHyphens?, List.drop_append, List.drop_of_length_le,
    firstLength, secondLength, thirdLength, fourthLength, fifthLength]

section

variable (identifier : Uuid)

theorem toList_text :
    identifier.text.toList =
      identifier.hexDigits.take 8 ++
        '-' :: ((identifier.hexDigits.drop 8).take 4 ++
          '-' :: ((identifier.hexDigits.drop 12).take 4 ++
            '-' :: ((identifier.hexDigits.drop 16).take 4 ++
              '-' :: identifier.hexDigits.drop 20))) := by
  simp [text]

theorem append_groups (digits : List Char) :
    digits.take 8 ++ (digits.drop 8).take 4 ++ (digits.drop 12).take 4 ++
        (digits.drop 16).take 4 ++ digits.drop 20 =
      digits := by
  rw [← List.take_add, ← List.take_add, ← List.take_add,
    List.take_append_drop]

/-- The hyphenated form of an identifier is read as the identifier. -/
theorem read?_text : read? identifier.text = some identifier := by
  have length := identifier.length_hexDigits
  have isHyphenated :
      hyphenated? identifier.text.toList = some identifier := by
    rw [hyphenated?, toList_text,
      withoutHyphens?_groups (by simp [length]) (by simp [length])
        (by simp [length]) (by simp [length]) (by simp [length]),
      append_groups]
    exact identifier.bare?_hexDigits
  have notBare : bare? identifier.text.toList = none := by
    have longer : identifier.text.toList.length = 36 := by
      simp [toList_text, length]
    rw [bare?, if_neg (by omega)]
  rw [read?]
  rw [notBare, Option.none_or, isHyphenated, Option.some_or]

/-- No blank stands in the hyphenated form. -/
theorem trim_text : Text.trim identifier.text = identifier.text := by
  have taken (start count : Nat) :
      Text.IsSolid ((identifier.hexDigits.drop start).take count) :=
    fun character member =>
      identifier.isSolid_hexDigits character
        (List.mem_of_mem_drop (List.mem_of_mem_take member))
  have first : Text.IsSolid (identifier.hexDigits.take 8) := taken 0 8
  have last : Text.IsSolid (identifier.hexDigits.drop 20) :=
    fun character member =>
      identifier.isSolid_hexDigits character (List.mem_of_mem_drop member)
  have hyphenSolid : Text.isBlank '-' = false := by decide
  apply Text.trim_eq_self_of_isSolid
  rw [toList_text]
  simp only [Text.isSolid_append, Text.isSolid_cons, first, taken, last,
    hyphenSolid, and_self]

end

end Uuid

end RecordQuery
