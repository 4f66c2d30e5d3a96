import Mathlib.Algebra.Ring.Nat
import RecordQuery.NameMap

namespace RecordQuery.Text

/-!
# The order of texts and of their bytes

A map lists its names in the order of their code points.  UTF-8 writes a code
point as a first byte, which tells how many bytes follow, and following bytes of
six bits each; so the order of code points is that of the bytes, from the first
byte on (`bytes_lt_bytes_iff`).
-/

/-- The bytes of a text in UTF-8. -/
def bytes (text : String) : List UInt8 :=
  text.toUTF8.data.toList

theorem bytes_eq_flatMap (text : String) :
    bytes text = text.toList.flatMap String.utf8EncodeChar := by
  rw [bytes, String.toUTF8, ← String.utf8Encode_toList, List.utf8Encode,
    List.data_toByteArray]

/-- How many bytes follow the first one of a code point. -/
def following (code : Nat) : Nat :=
  if code ≤ 0x7f then 0
  else if code ≤ 0x7ff then 1
  else if code ≤ 0xffff then 2
  else 3

/-- What the first byte carries to tell how many others follow. -/
def marker : Nat → Nat
  | 0 => 0
  | 1 => 0xc0
  | 2 => 0xe0
  | _ => 0xf0

/-- The number in the first byte of a code point. -/
def leading (code : Nat) : Nat :=
  code / 64 ^ following code + marker (following code)

/-- The last bytes of a code point, of six bits each. -/
def trailing : Nat → Nat → List UInt8
  | 0, _ => []
  | count + 1, code =>
      trailing count (code / 64) ++ [UInt8.ofNat (code % 64 + 128)]

theorem toNat_val_lt (character : Char) :
    character.val.toNat < 0x110000 := by
  rcases character.valid with small | ⟨-, small⟩
  · exact Nat.lt_trans small (by decide)
  · exact small

theorem utf8EncodeChar_eq (character : Char) :
    String.utf8EncodeChar character =
      UInt8.ofNat (leading character.val.toNat) ::
        trailing (following character.val.toNat) character.val.toNat := by
  have valid := toNat_val_lt character
  unfold String.utf8EncodeChar leading following
  generalize character.val.toNat = code at valid ⊢
  dsimp only
  split
  · simp [marker, trailing]
  split
  · have first : code / 64 % 32 = code / 64 := by omega
    simp [marker, trailing, first]
  split
  · have first : code / 4096 % 16 = code / 4096 := by omega
    simp [marker, trailing, first]
  · have first : code / 262144 % 8 = code / 262144 := by omega
    simp [marker, trailing, first, Nat.div_div_eq_div_mul]

section

variable {left right : Nat}

/-- The sizes of code points, by the number of bytes that follow. -/
theorem following_cases (code : Nat) :
    following code = 0 ∧ code ≤ 0x7f ∨
      following code = 1 ∧ code ≤ 0x7ff ∨
        following code = 2 ∧ code ≤ 0xffff ∨
          following code = 3 := by
  unfold following
  repeat' split
  all_goals omega

theorem leading_lt (valid : right < 0x110000) : leading right < 256 := by
  unfold leading
  rcases following_cases right with
      ⟨same, small⟩ | ⟨same, small⟩ | ⟨same, small⟩ | same <;>
    rw [same] <;> simp only [marker, Nat.reducePow] <;> omega

theorem following_le (less : left < right) :
    following left ≤ following right := by
  unfold following
  repeat' split
  all_goals omega

/-- The first byte is below the marker of every longer code point. -/
theorem leading_lt_marker
    {count : Nat}
    (longer : following left < count)
    (few : count ≤ 3) :
    leading left < marker count := by
  have counts : count = 1 ∨ count = 2 ∨ count = 3 := by omega
  unfold leading
  rcases following_cases left with
      ⟨same, small⟩ | ⟨same, small⟩ | ⟨same, small⟩ | same <;>
    rw [same] at longer ⊢ <;>
      rcases counts with rfl | rfl | rfl <;>
        simp only [marker, Nat.reducePow] <;> omega

/-- The first byte grows with the number of those that follow. -/
theorem leading_lt_leading
    (shorter : following left < following right) :
    leading left < leading right := by
  have few : following right ≤ 3 := by
    rcases following_cases right with
      ⟨same, -⟩ | ⟨same, -⟩ | ⟨same, -⟩ | same <;> omega
  calc
    leading left < marker (following right) :=
      leading_lt_marker shorter few
    _ ≤ leading right := Nat.le_add_left _ _

theorem cons_lt_cons_of_lt
    (less : left < right)
    (small : right < 256)
    (rest others : List UInt8) :
    UInt8.ofNat left :: rest < UInt8.ofNat right :: others := by
  rw [List.cons_lt_cons_iff, UInt8.lt_iff_toNat_lt, UInt8.toNat_ofNat',
    UInt8.toNat_ofNat', Nat.mod_eq_of_lt small,
    Nat.mod_eq_of_lt (Nat.lt_trans less small)]
  exact Or.inl less

/-- Of two numbers with as many bytes, the smaller has the smaller bytes. -/
theorem trailing_lt_trailing
    (less : left < right)
    (count mark : Nat)
    (small : right / 64 ^ count + mark < 256)
    (rest others : List UInt8) :
    UInt8.ofNat (left / 64 ^ count + mark) ::
        (trailing count left ++ rest) <
      UInt8.ofNat (right / 64 ^ count + mark) ::
        (trailing count right ++ others) := by
  induction count generalizing left right rest others with
  | zero =>
      rw [Nat.pow_zero, Nat.div_one, Nat.div_one] at *
      exact cons_lt_cons_of_lt (Nat.add_lt_add_right less mark) small _ _
  | succ count inductionHypothesis =>
      rw [Nat.pow_succ', ← Nat.div_div_eq_div_mul] at small
      rw [Nat.pow_succ', ← Nat.div_div_eq_div_mul,
        ← Nat.div_div_eq_div_mul]
      simp only [trailing, List.append_assoc]
      by_cases before : left / 64 < right / 64
      · exact inductionHypothesis before small _ _
      · -- The two agree up to the last six bits.
        have same : left / 64 = right / 64 := by omega
        have last : left % 64 + 128 < right % 64 + 128 := by omega
        rw [same, List.cons_lt_cons_iff]
        refine Or.inr ⟨rfl, List.append_left_lt ?_⟩
        exact cons_lt_cons_of_lt last (by omega) _ _

end

theorem utf8EncodeChar_append_lt
    {left right : Char}
    (less : left < right)
    (rest others : List UInt8) :
    String.utf8EncodeChar left ++ rest <
      String.utf8EncodeChar right ++ others := by
  have lessCode : left.val.toNat < right.val.toNat := less
  have valid := toNat_val_lt right
  rw [utf8EncodeChar_eq, utf8EncodeChar_eq, List.cons_append,
    List.cons_append]
  rcases Nat.lt_or_eq_of_le (following_le lessCode) with shorter | same
  · exact cons_lt_cons_of_lt
      (leading_lt_leading shorter)
      (leading_lt valid) _ _
  · have small := leading_lt valid
    unfold leading at small ⊢
    rw [same]
    exact trailing_lt_trailing lessCode _ _ small _ _

theorem flatMap_utf8EncodeChar_lt
    {left right : List Char}
    (less : left < right) :
    left.flatMap String.utf8EncodeChar <
      right.flatMap String.utf8EncodeChar := by
  induction left generalizing right with
  | nil =>
      cases right with
      | nil =>
          exact absurd less (List.lt_irrefl [])
      | cons character others =>
          rw [List.flatMap_nil, List.flatMap_cons, utf8EncodeChar_eq]
          exact List.nil_lt_cons _ _
  | cons first rest inductionHypothesis =>
      cases right with
      | nil =>
          exact absurd less (List.not_lt_nil _)
      | cons character others =>
          rw [List.flatMap_cons, List.flatMap_cons]
          rcases List.cons_lt_cons_iff.mp less with before | ⟨rfl, later⟩
          · exact utf8EncodeChar_append_lt before _ _
          · exact List.append_left_lt (inductionHypothesis later)

theorem bytes_lt_bytes
    {left right : String}
    (less : left < right) :
    bytes left < bytes right := by
  rw [bytes_eq_flatMap, bytes_eq_flatMap]
  exact flatMap_utf8EncodeChar_lt less

/-- Texts stand in the order of their bytes. -/
theorem bytes_lt_bytes_iff {left right : String} :
    bytes left < bytes right ↔ left < right := by
  constructor
  · intro less
    rcases Std.lt_trichotomy left right with before | rfl | after
    · exact before
    · exact absurd less (List.lt_irrefl _)
    · exact absurd less (List.lt_asymm (bytes_lt_bytes after))
  · exact bytes_lt_bytes

end RecordQuery.Text
