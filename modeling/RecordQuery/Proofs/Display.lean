import RecordQuery.Proofs.Binding
import RecordQuery.Proofs.Identifiers
import RecordQuery.Proofs.Meaning
import RecordQuery.Proofs.Positional
import RecordQuery.Proofs.Timestamps

namespace RecordQuery

/-!
# Displayed values read back

A value that was read for a kind is displayed as a text, and reading this text
for the same kind gives the value again.  Its first spelling does not matter:
signs, zeros, exponents, offsets, braces and blanks may be gone, the value is
not.  The exception are instants outside the years 0 to 9999 of universal time.
Their offset leads there, their text begins with a sign, and reading refuses it
(`display_rereads_iff`).
-/

namespace Request

/-- The display of a value reads as the value. -/
def Rereads (kind : Kind) (result : Value) : Prop :=
  value kind result.display = .ok result

variable {raw : String}
variable {result : Value}

theorem rereads_integer
    (wasRead : value .integer raw = .ok result) :
    Rereads .integer result ∧ result.hasPlainYear = true := by
  simp only [value] at wasRead
  obtain ⟨number, -, rfl⟩ := orFault_map_eq_ok_iff.mp wasRead
  refine ⟨?_, rfl⟩
  simp only [Rereads, value, Value.display, Decimal.trim_signedText,
    Decimal.int64?_signedText]
  rfl

theorem rereads_float
    (wasRead : value .float raw = .ok result) :
    Rereads .float result ∧ result.hasPlainYear = true := by
  simp only [value] at wasRead
  obtain ⟨number, isRead, rfl⟩ := orFault_map_eq_ok_iff.mp wasRead
  have isFinite := (Option.filter_eq_some_iff.mp isRead).2
  refine ⟨?_, rfl⟩
  simp only [Rereads, value, Value.display, Binary64.trim_plain isFinite,
    finite?, Binary64.read?_plain isFinite, Option.filter_some, isFinite]
  rfl

theorem rereads_text
    (wasRead : value .text raw = .ok result) :
    Rereads .text result ∧ result.hasPlainYear = true := by
  cases wasRead
  exact ⟨rfl, rfl⟩

theorem rereads_boolean
    (wasRead : value .boolean raw = .ok result) :
    Rereads .boolean result ∧ result.hasPlainYear = true := by
  simp only [value] at wasRead
  obtain ⟨flag, -, rfl⟩ := map_eq_ok_iff.mp wasRead
  refine ⟨?_, rfl⟩
  unfold Rereads
  cases flag <;> decide

theorem rereads_uuid
    (wasRead : value .uuid raw = .ok result) :
    Rereads .uuid result ∧ result.hasPlainYear = true := by
  simp only [value] at wasRead
  obtain ⟨identifier, -, rfl⟩ := orFault_map_eq_ok_iff.mp wasRead
  refine ⟨?_, rfl⟩
  simp only [Rereads, value, Value.display, Uuid.trim_text, Uuid.read?_text]
  rfl

/-- A variant that was read has no outer blanks to lose. -/
theorem rereads_enumeration
    {variants : List String}
    (wasRead : value (.enumeration variants) raw = .ok result) :
    Rereads (.enumeration variants) result ∧
      result.hasPlainYear = true := by
  unfold value at wasRead
  dsimp only at wasRead
  split at wasRead
  next declared =>
    cases wasRead
    refine ⟨?_, rfl⟩
    simp only [Rereads, value, Value.display, Text.trim_trim, declared,
      ↓reduceIte]
  next =>
    exact absurd wasRead (by simp)

theorem value_display_timestamp (instant : Instant) :
    value .timestamp (Value.timestamp instant).display =
      orFault (.notTimestamp instant.rfc3339)
        ((Instant.read? instant.rfc3339).map .timestamp) := by
  simp only [value, Value.display, Instant.trim_rfc3339]

theorem rereads_timestamp
    {instant : Instant}
    (plain : instant.hasPlainYear = true) :
    Rereads .timestamp (.timestamp instant) := by
  rw [Rereads, value_display_timestamp, Instant.read?_rfc3339 plain]
  rfl

theorem refuses_timestamp
    {instant : Instant}
    (notPlain : instant.hasPlainYear = false) :
    value .timestamp (Value.timestamp instant).display =
      .error (.notTimestamp (Value.timestamp instant).display) := by
  rw [value_display_timestamp,
    Instant.read?_rfc3339_of_not_plain notPlain]
  rfl

/-- Every value that is read reads again, or else it is a timestamp. -/
theorem rereads_or_isTimestamp
    {kind : Kind}
    (wasRead : value kind raw = .ok result) :
    Rereads kind result ∧ result.hasPlainYear = true ∨
      kind = .timestamp ∧ ∃ instant, result = .timestamp instant := by
  cases kind with
  | integer =>
      exact Or.inl (rereads_integer wasRead)
  | float =>
      exact Or.inl (rereads_float wasRead)
  | text =>
      exact Or.inl (rereads_text wasRead)
  | boolean =>
      exact Or.inl (rereads_boolean wasRead)
  | uuid =>
      exact Or.inl (rereads_uuid wasRead)
  | enumeration variants =>
      exact Or.inl (rereads_enumeration wasRead)
  | timestamp =>
      simp only [value] at wasRead
      obtain ⟨instant, -, rfl⟩ := orFault_map_eq_ok_iff.mp wasRead
      exact Or.inr ⟨rfl, instant, rfl⟩

end Request

/--
The display of a value that was read reads as the value again, unless it is an
instant outside the years 0 to 9999, whose display is refused.
-/
theorem display_rereads_iff
    {kind : Kind}
    {raw : String}
    {value : Value}
    (wasRead : Request.value kind raw = .ok value) :
    (Request.value kind value.display = .ok value ↔
        value.hasPlainYear = true) ∧
      (value.hasPlainYear = false →
        Request.value kind value.display =
          .error (.notTimestamp value.display)) := by
  rcases Request.rereads_or_isTimestamp wasRead with
    ⟨rereads, plain⟩ | ⟨rfl, instant, rfl⟩
  · refine ⟨⟨fun _ => plain, fun _ => rereads⟩, fun notPlain => ?_⟩
    exact absurd plain (by simp [notPlain])
  · -- Whatever was read, only the year decides how the instant is written.
    refine ⟨⟨fun rereads => ?_, Request.rereads_timestamp⟩,
      Request.refuses_timestamp⟩
    cases plain : instant.hasPlainYear with
    | true =>
        exact plain
    | false =>
        have refused := Request.refuses_timestamp plain
        exact absurd (refused.symm.trans rereads) (by simp)

namespace Club

/-- A quarter of a second after the end of the first of May. -/
def afterFirstOfMay : Instant :=
  (Instant.ofParts? 1714608000 250000000).get rfl

/-- One minute before the year zero. -/
def beforeYearZero : Instant :=
  (Instant.ofParts? (-62167219260) 0).get rfl

end Club

/-- A timestamp with an offset and blanks around it is displayed otherwise. -/
theorem display_rereads_afterFirstOfMay :
    Request.value .timestamp " 2024-05-01 18:00:00.25-06:00" =
        .ok (.timestamp Club.afterFirstOfMay) ∧
      (Value.timestamp Club.afterFirstOfMay).display =
        "2024-05-02T00:00:00.250+00:00" ∧
      Request.value .timestamp "2024-05-02T00:00:00.250+00:00" =
        .ok (.timestamp Club.afterFirstOfMay) := by
  have wasRead :
      Request.value .timestamp " 2024-05-01 18:00:00.25-06:00" =
        .ok (.timestamp Club.afterFirstOfMay) := by
    decide
  have displayed :
      (Value.timestamp Club.afterFirstOfMay).display =
        "2024-05-02T00:00:00.250+00:00" := by
    decide
  have rereads := (display_rereads_iff wasRead).1.mpr (by decide)
  rw [displayed] at rereads
  exact ⟨wasRead, displayed, rereads⟩

/-- Midnight of the year zero, a minute east of it, is displayed in vain. -/
theorem not_display_rereads_beforeYearZero :
    Request.value .timestamp "0000-01-01T00:00:00+00:01" =
        .ok (.timestamp Club.beforeYearZero) ∧
      (Value.timestamp Club.beforeYearZero).display =
        "-0001-12-31T23:59:00+00:00" ∧
      Request.value .timestamp "-0001-12-31T23:59:00+00:00" ≠
        .ok (.timestamp Club.beforeYearZero) := by
  refine ⟨by decide, by decide, by decide⟩

end RecordQuery
