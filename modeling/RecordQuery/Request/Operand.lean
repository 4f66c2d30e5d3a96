import RecordQuery.Binary64.Reader
import RecordQuery.Error
import RecordQuery.Instant.Reader
import RecordQuery.Text.Blank

namespace RecordQuery.Request

/-!
# Reading operands from a request

The text of a parameter is read according to the kind of the field and the
operator.  Blanks around a value do not count, except in free text, which is
taken as it stands.  A set is written with commas and has no way to write a
comma inside a member.
-/

/-- Reads a truth value, in any ASCII case and with blanks around it. -/
def boolean (raw : String) : Except ParameterFault Bool :=
  let word := Text.lowerAscii (Text.trim raw)
  if word = "true" then
    .ok true
  else if word = "false" then
    .ok false
  else
    .error (.notBoolean raw)

/-- The result of a reader, or a fault. -/
def orFault {Result : Type} (fault : ParameterFault) :
    Option Result → Except ParameterFault Result
  | some result => .ok result
  | none => .error fault

/-- Reads a finite floating-point number. -/
def finite? (text : String) : Option Binary64 :=
  (Binary64.read? text).filter Binary64.isFinite

/-- Reads one value of a kind. -/
def value (kind : Kind) (raw : String) : Except ParameterFault Value :=
  let trimmed := Text.trim raw
  match kind with
  | .integer =>
      orFault (.notInteger raw) ((Decimal.int64? trimmed).map .integer)
  | .float =>
      orFault (.notNumber raw) ((finite? trimmed).map .float)
  | .text =>
      .ok (.text raw)
  | .boolean =>
      (boolean trimmed).map .boolean
  | .timestamp =>
      orFault (.notTimestamp raw) ((Instant.read? trimmed).map .timestamp)
  | .uuid =>
      orFault (.notUuid raw) ((Uuid.read? trimmed).map .uuid)
  | .enumeration variants =>
      if variants.contains trimmed then
        .ok (.text trimmed)
      else
        .error (.notVariant raw variants)

/-- Reads every text of a list as a value; the first bad one is at fault. -/
def values (kind : Kind) : List String → Except ParameterFault (List Value)
  | [] => .ok []
  | raw :: rest =>
      match value kind raw with
      | .error fault => .error fault
      | .ok first =>
          match values kind rest with
          | .error fault => .error fault
          | .ok others => .ok (first :: others)

/-- Reads the operand of an operator on a field of a kind. -/
def operand (kind : Kind) (operator : Operator) (raw : String) :
    Except ParameterFault Operand :=
  match operator with
  | .specified => (boolean raw).map .flag
  | .contains => .ok (.substring raw)
  | .lacks => .ok (.substring raw)
  | .oneOf => (values kind (Text.piecesOf ',' raw)).map .values
  | .noneOf => (values kind (Text.piecesOf ',' raw)).map .values
  | _ => (value kind raw).map .value

/-- An operand that was read has the shape that its operator takes. -/
theorem operand_fits
    {kind : Kind}
    {operator : Operator}
    {raw : String}
    {result : Operand}
    (wasRead : operand kind operator raw = .ok result) :
    result.fits operator = true := by
  cases operator <;> simp only [operand] at wasRead
  case contains =>
    cases wasRead
    rfl
  case lacks =>
    cases wasRead
    rfl
  case specified =>
    cases flag : boolean raw <;>
      simp only [flag, Except.map, reduceCtorEq, Except.ok.injEq] at wasRead
    subst wasRead
    rfl
  case oneOf =>
    cases members : values kind (Text.piecesOf ',' raw) <;>
      simp only [members, Except.map, reduceCtorEq, Except.ok.injEq]
        at wasRead
    subst wasRead
    rfl
  case noneOf =>
    cases members : values kind (Text.piecesOf ',' raw) <;>
      simp only [members, Except.map, reduceCtorEq, Except.ok.injEq]
        at wasRead
    subst wasRead
    rfl
  all_goals
    cases single : value kind raw <;>
      simp only [single, Except.map, reduceCtorEq, Except.ok.injEq]
        at wasRead
    subst wasRead
    rfl

end RecordQuery.Request
