import RecordQuery.Instant.Calendar

namespace RecordQuery

/-!
# Instants in universal time

An instant counts whole seconds from the start of 1970 and nanoseconds within
the second.  A leap second has no count of its own: it is the last second of a
minute with a thousand million further nanoseconds.  Instants are ordered by
seconds and then by nanoseconds, which puts a leap second after the second it
extends and before the next.
-/

/-- An instant with nanosecond precision. -/
structure Instant where
  seconds : Int
  nanoseconds : Nat
  nanoseconds_lt : nanoseconds < 2000000000
  leap_at_end : 1000000000 ≤ nanoseconds → seconds % 60 = 59
  deriving DecidableEq

namespace Instant

/-- The seconds of a day. -/
def secondsPerDay : Int := 86400

/-- The day number of the first of January 1970. -/
def epochDay : Int := 719528

/-- The instant of a second and its nanoseconds, if there is one. -/
def ofParts? (seconds : Int) (nanoseconds : Nat) : Option Instant :=
  if valid :
      nanoseconds < 2000000000 ∧
        (1000000000 ≤ nanoseconds → seconds % 60 = 59) then
    some ⟨seconds, nanoseconds, valid.1, valid.2⟩
  else
    none

/-- Whether one instant comes before another. -/
def isBefore (left right : Instant) : Bool :=
  decide (left.seconds < right.seconds) ||
    (left.seconds == right.seconds &&
      decide (left.nanoseconds < right.nanoseconds))

/-- The date of an instant. -/
def date (instant : Instant) : Date :=
  Date.ofDayNumber (instant.seconds / secondsPerDay + epochDay)

/-- The second of the day of an instant, leap seconds not counted. -/
def secondOfDay (instant : Instant) : Nat :=
  (instant.seconds % secondsPerDay).toNat

/-- The hour of an instant. -/
def hour (instant : Instant) : Nat :=
  instant.secondOfDay / 3600

/-- The minute of an instant. -/
def minute (instant : Instant) : Nat :=
  instant.secondOfDay / 60 % 60

/-- The second of an instant; sixty for a leap second. -/
def second (instant : Instant) : Nat :=
  instant.secondOfDay % 60 + instant.nanoseconds / 1000000000

/-- The nanoseconds within the second as written. -/
def fraction (instant : Instant) : Nat :=
  instant.nanoseconds % 1000000000

/-- Before is irreflexive. -/
theorem isBefore_self (instant : Instant) :
    instant.isBefore instant = false := by
  simp [isBefore]

/-- Of two instants one is before the other or they are the same. -/
theorem isBefore_or_eq_or_isBefore (left right : Instant) :
    left.isBefore right = true ∨ left = right ∨
      right.isBefore left = true := by
  rcases left with ⟨leftSeconds, leftNanos, leftBound, leftLeap⟩
  rcases right with ⟨rightSeconds, rightNanos, rightBound, rightLeap⟩
  simp only [isBefore, Bool.or_eq_true, decide_eq_true_eq,
    Bool.and_eq_true, beq_iff_eq, Instant.mk.injEq]
  omega

end Instant

end RecordQuery
