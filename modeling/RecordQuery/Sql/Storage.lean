import RecordQuery.Value

namespace RecordQuery

namespace Sql

/-!
# How values are stored and compared

SQLite keeps values in classes of storage.  Numbers come before texts and texts
before blobs; within a class numbers compare by value, texts by their bytes and
blobs by their bytes.  Truth values are the numbers zero and one, timestamps are
their RFC 3339 texts, and identifiers are blobs of sixteen bytes.  A NaN has no
storage and is null.
-/

/-- A stored value that is not null. -/
inductive Storage where
  /-- A number, in units of 2⁻¹⁰⁷⁴. -/
  | number (units : Int)
  | text (text : String)
  /-- Sixteen bytes as a number, the first byte the most significant. -/
  | blob (bytes : Nat)
  deriving Repr, DecidableEq

namespace Storage

/-- A whole number in storage. -/
def ofInt (value : Int) : Storage :=
  number (value * Binary64.unitsOfOne)

/-- The order of stored values. -/
def order : Storage → Storage → Ordering
  | number left, number right => compare left right
  | number _, text _ => .lt
  | number _, blob _ => .lt
  | text _, number _ => .gt
  | text left, text right => compare left right
  | text _, blob _ => .lt
  | blob _, number _ => .gt
  | blob _, text _ => .gt
  | blob left, blob right => compare left right

end Storage

end Sql

/-- How a value is stored, if it is not null. -/
def Value.storage? : Value → Option Sql.Storage
  | .integer value => some (.ofInt value.toInt)
  | .float value =>
      if value.isNaN then none else some (.number value.units)
  | .text value => some (.text value)
  | .boolean value => some (.ofInt (if value then 1 else 0))
  | .timestamp value => some (.text value.rfc3339)
  | .uuid value => some (.blob value.value.toNat)

/-- How the content of a column is stored, if it is not null. -/
def storageOf (content : Option Value) : Option Sql.Storage :=
  content.bind Value.storage?

namespace Sql

/-- The order of column contents: null before everything else. -/
def contentOrder (left right : Option Value) : Ordering :=
  match storageOf left, storageOf right with
  | none, none => .eq
  | none, some _ => .lt
  | some _, none => .gt
  | some leftStored, some rightStored => leftStored.order rightStored

end Sql

end RecordQuery
