import RecordQuery.Error

namespace RecordQuery

/-!
# Events

What the library tells about its work.  An event is a cause with its data; its
level, its text and its named fields are functions of the cause.  Work that
raises events gives them beside its result, first event first.
-/

/-- How much an event matters. -/
inductive Level where
  | trace
  | debug
  | warn
  | error
  deriving Repr, DecidableEq

namespace Level

/-- The word for a level. -/
def name : Level → String
  | trace => "TRACE"
  | debug => "DEBUG"
  | warn => "WARN"
  | error => "ERROR"

end Level

/-- Something worth telling. -/
inductive Event where
  /-- A request parameter is no filter. -/
  | ignoredParameter (parameter : String)
  /-- A request parameter names a field that the entity does not have. -/
  | ignoredField (parameter resource : String)
  /-- A criteria names a field that the entity does not have. -/
  | unknownField (field resource : String)
  /-- A filter does not compile. -/
  | uncompilable (error : QueryError) (resource : String)
  /-- A sort order names no own column. -/
  | unsortable (property resource : String)
  /-- All records of a criteria are asked for. -/
  | findAll (resource criteria : String)
  /-- A page of records of a criteria is asked for. -/
  | findPage (resource criteria : String) (page size : UInt64)
  /-- The number of records of a criteria is asked for. -/
  | count (resource criteria : String)
  /-- A record is asked for by its key. -/
  | findOne (resource : String) (key : Int64)
  /-- Nobody is known to show records to. -/
  | unresolvedActor (resource : String)
  deriving DecidableEq

namespace Event

/-- The level of an event. -/
def level : Event → Level
  | ignoredParameter _ => .trace
  | ignoredField _ _ => .trace
  | unknownField _ _ => .error
  | uncompilable _ _ => .error
  | unsortable _ _ => .warn
  | findAll _ _ => .debug
  | findPage _ _ _ _ => .debug
  | count _ _ => .debug
  | findOne _ _ => .debug
  | unresolvedActor _ => .debug

/-- The text of an event. -/
def message : Event → String
  | ignoredParameter _ => "ignoring non-filter parameter"
  | ignoredField _ _ => "ignoring parameter for unknown field"
  | unknownField _ _ => "criteria references unknown field"
  | uncompilable _ _ => "cannot compile filter"
  | unsortable _ _ => "ignoring unsortable property"
  | findAll _ _ => "find by criteria"
  | findPage _ _ _ _ => "find by criteria"
  | count _ _ => "count by criteria"
  | findOne _ _ => "find one"
  | unresolvedActor _ => "actor unresolved, returning no records"

/-- The named fields of an event, in their order. -/
def fields : Event → List (String × String)
  | ignoredParameter parameter => [("parameter", parameter)]
  | ignoredField parameter resource =>
      [("parameter", parameter), ("resource", resource)]
  | unknownField field resource =>
      [("field", field), ("resource", resource)]
  | uncompilable error resource =>
      [("error", error.message), ("resource", resource)]
  | unsortable property resource =>
      [("property", property), ("resource", resource)]
  | findAll resource criteria =>
      [("resource", resource), ("criteria", criteria)]
  | findPage resource criteria page size =>
      [ ("resource", resource), ("criteria", criteria),
        ("page", Decimal.text page.toNat),
        ("size", Decimal.text size.toNat) ]
  | count resource criteria =>
      [("resource", resource), ("criteria", criteria)]
  | findOne resource key =>
      [("resource", resource), ("id", Decimal.signedText key.toInt)]
  | unresolvedActor resource => [("resource", resource)]

end Event

/-- A result with the events that led to it. -/
structure Traced (Result : Type) where
  events : List Event
  result : Result

namespace Traced

/-- A result that came without events. -/
def quiet {Result : Type} (result : Result) : Traced Result :=
  ⟨[], result⟩

/-- A result with an event before all others. -/
def after {Result : Type} (event : Event) (traced : Traced Result) :
    Traced Result :=
  ⟨event :: traced.events, traced.result⟩

/-- A traced result with its result changed. -/
def map {Result Changed : Type}
    (change : Result → Changed)
    (traced : Traced Result) :
    Traced Changed :=
  ⟨traced.events, change traced.result⟩

end Traced

end RecordQuery
