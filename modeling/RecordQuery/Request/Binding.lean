import RecordQuery.Criteria
import RecordQuery.Entity
import RecordQuery.Event
import RecordQuery.Request.Operand

namespace RecordQuery

/-!
# Binding request parameters to a criteria

A parameter `field.operator` filters a field, the parameter `distinct` sets the
distinct hint, and every other parameter is passed over.  What a single
parameter means does not depend on its neighbours (`binding`); only putting the
meanings together does: sets grow, every other operand replaces the one before.
-/

/-- A decoded request parameter. -/
structure Parameter where
  name : String
  value : String
  deriving Repr, DecidableEq

/-- The name of the parameter that sets the distinct hint. -/
def distinctName : String := "distinct"

/-- The greatest length of a parameter's value, in bytes. -/
def maxValueBytes : Nat := 10000

/-- The greatest number of members of a set. -/
def maxSetSize : Nat := 1000

/-- What a parameter asks for. -/
inductive Binding where
  /-- To set the distinct hint. -/
  | distinct (flag : Bool)
  /-- To apply an operator to a field. -/
  | operand (field : Field) (operator : Operator) (operand : Operand)
  /-- Nothing, and why. -/
  | ignored (event : Event)
  deriving DecidableEq

namespace Parameter

/-- An error that names a parameter. -/
def refuse {Result : Type}
    (parameter : Parameter)
    (fault : ParameterFault) :
    Except QueryError Result :=
  .error (.invalidParameter parameter.name fault)

/-- Names the parameter in the fault of a reader. -/
def naming {Result : Type}
    (parameter : Parameter) :
    Except ParameterFault Result → Except QueryError Result
  | .ok result => .ok result
  | .error fault => parameter.refuse fault

/-- What a parameter on a known field asks for. -/
def fieldBinding
    (parameter : Parameter)
    (field : Field)
    (operatorName : String) :
    Except QueryError Binding :=
  match Operator.ofName? operatorName with
  | none => parameter.refuse (.unknownOperator operatorName)
  | some operator =>
      if field.kind.supports operator then
        (parameter.naming
          (Request.operand field.kind operator parameter.value)).map
            (.operand field operator)
      else
        parameter.refuse
          (.unavailableOperator operator field.kind field.name)

/-- What a parameter asks for. -/
def binding (entity : Entity) (parameter : Parameter) :
    Except QueryError Binding :=
  if maxValueBytes < parameter.value.utf8ByteSize then
    parameter.refuse .tooLong
  else if parameter.name = distinctName then
    (parameter.naming (Request.boolean parameter.value)).map .distinct
  else
    match Text.cutAt? '.' parameter.name with
    | none => .ok (.ignored (.ignoredParameter parameter.name))
    | some (fieldName, operatorName) =>
        match entity.field? fieldName with
        | none =>
            .ok (.ignored (.ignoredField parameter.name entity.resource))
        | some field => parameter.fieldBinding field operatorName

end Parameter

/-- An operand together with what the filter already has: sets grow. -/
def Filter.accumulated (filter : Filter) : Operator → Operand → Operand
  | .oneOf, .values values => .values (filter.oneOf.getD [] ++ values)
  | .noneOf, .values values => .values (filter.noneOf.getD [] ++ values)
  | _, operand => operand

namespace Criteria

/-- Adds the operand that a parameter asks for. -/
def bindOperand
    (criteria : Criteria)
    (parameter : Parameter)
    (field : Field)
    (operator : Operator)
    (operand : Operand) :
    Except QueryError Criteria :=
  let filter := criteria.filterOrEmpty field.name
  let grown := filter.accumulated operator operand
  if maxSetSize < grown.members.length then
    parameter.refuse .tooManyValues
  else
    match filter.set operator grown with
    | .ok changed => .ok (criteria.insert field.name changed)
    | .error error => parameter.refuse (.custom error.message)

/-- Adds what a list of parameters asks for. -/
def bindAll (entity : Entity) :
    Criteria → List Parameter → Traced (Except QueryError Criteria)
  | criteria, [] => .quiet (.ok criteria)
  | criteria, parameter :: rest =>
      match parameter.binding entity with
      | .error error => .quiet (.error error)
      | .ok (.ignored event) => .after event (bindAll entity criteria rest)
      | .ok (.distinct flag) =>
          bindAll entity (criteria.setDistinct (some flag)) rest
      | .ok (.operand field operator operand) =>
          match criteria.bindOperand parameter field operator operand with
          | .error error => .quiet (.error error)
          | .ok changed => bindAll entity changed rest

/-- The first field whose operators do not go together. -/
def mixed? (criteria : Criteria) : Option QueryError :=
  criteria.fields.findSome? fun entry =>
    entry.2.fault?.map fun fault =>
      .invalidParameter entry.1 (.mixedOperators fault)

/-- A criteria whose filters all go together. -/
def checked (criteria : Criteria) : Except QueryError Criteria :=
  match criteria.mixed? with
  | some error => .error error
  | none => .ok criteria

/-- The criteria that a list of request parameters asks for. -/
def ofParameters (entity : Entity) (parameters : List Parameter) :
    Traced (Except QueryError Criteria) :=
  (bindAll entity empty parameters).map fun bound =>
    bound.bind checked

end Criteria

end RecordQuery
