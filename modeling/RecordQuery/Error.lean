import RecordQuery.Kind
import RecordQuery.Operand

namespace RecordQuery

/-!
# Errors

Every error is a cause with the data that its text needs; the texts are written
by the `message` functions and nowhere else.  Three families are told apart: a
request that a client got wrong, a criteria that does not fit its entity, and a
failure of the store.
-/

/-- Why the operators of one filter do not go together, or one does not fit. -/
inductive FilterFault where
  /-- The operand does not have the shape that the operator takes. -/
  | shape (operator : Operator) (operand : Operand)
  /-- `specified` stands beside another operator. -/
  | specifiedNotAlone
  /-- A range operator stands beside a substring operator. -/
  | rangeWithSubstring
  /-- A fault of the caller's own. -/
  | custom (message : String)
  deriving DecidableEq

namespace FilterFault

/-- The text of a filter fault. -/
def message : FilterFault → String
  | shape operator operand =>
      "operand " ++ operand.inspect ++ " does not fit operator '" ++
        operator.name ++ "'"
  | specifiedNotAlone =>
      "'specified' cannot be combined with other operators"
  | rangeWithSubstring =>
      "range and substring operators cannot be combined"
  | custom message => message

end FilterFault

/-- Why a request parameter was refused. -/
inductive ParameterFault where
  | tooLong
  | notBoolean (raw : String)
  | notInteger (raw : String)
  | notNumber (raw : String)
  | notTimestamp (raw : String)
  | notUuid (raw : String)
  | notVariant (raw : String) (variants : List String)
  | unknownOperator (name : String)
  | unavailableOperator (operator : Operator) (kind : Kind) (field : String)
  | tooManyValues
  | mixedOperators (fault : FilterFault)
  | notCount (raw : String)
  | zeroPageSize
  | unknownDirection (raw : String)
  | missingProperty
  /-- A fault of the caller's own. -/
  | custom (message : String)
  deriving DecidableEq

namespace ParameterFault

/-- A raw text between apostrophes, followed by what it is not. -/
def refusal (raw expected : String) : String :=
  "'" ++ raw ++ "' is not " ++ expected

/-- The text of a parameter fault. -/
def message : ParameterFault → String
  | tooLong => "value is too long"
  | notBoolean raw => refusal raw "a boolean"
  | notInteger raw => refusal raw "an integer"
  | notNumber raw => refusal raw "a number"
  | notTimestamp raw => refusal raw "an RFC 3339 timestamp"
  | notUuid raw => refusal raw "a UUID"
  | notVariant raw variants =>
      refusal raw ("one of " ++ Text.join ", " variants)
  | unknownOperator name => "unknown operator '" ++ name ++ "'"
  | unavailableOperator operator kind field =>
      "operator '" ++ operator.name ++ "' is not available on " ++
        kind.name ++ " field '" ++ field ++ "'"
  | tooManyValues => "too many values"
  | mixedOperators fault => fault.message
  | notCount raw => refusal raw "a non-negative integer"
  | zeroPageSize => "page size must be positive"
  | unknownDirection raw => "unknown sort direction '" ++ raw ++ "'"
  | missingProperty => "missing sort property"
  | custom message => message

end ParameterFault

/-- Why the store failed. -/
inductive StoreError where
  /-- The store gave a reason of its own. -/
  | custom (message : String)
  /-- There is no record as described. -/
  | recordNotFound (message : String)
  /-- An update found no record of its key. -/
  | recordNotUpdated
  /-- A new record has no value for a column that needs one. -/
  | missingColumn (table column : String)
  /-- A table has used all its keys. -/
  | keysExhausted (table : String)
  /-- A constraint of the database is broken. -/
  | constraintFailed (constraint : String)
  /-- Two tables of a statement have one name. -/
  | ambiguousName
  /-- A statement joins more tables than the database takes. -/
  | tooManyTables
  /-- A condition has more levels than the database reads. -/
  | conditionTooDeep
  /-- A statement binds more values than the database takes. -/
  | tooManyValues
  /-- A statement sorts by more columns than the database takes. -/
  | tooManySortKeys
  deriving Repr, DecidableEq

namespace StoreError

/-- The text of a store error. -/
def message : StoreError → String
  | custom message => "Custom Error: " ++ message
  | recordNotFound message => "RecordNotFound Error: " ++ message
  | recordNotUpdated => "None of the records are updated"
  | missingColumn table column =>
      "no value for required column " ++ table ++ "." ++ column
  | keysExhausted table => "no key left in table " ++ table
  | constraintFailed constraint => constraint ++ " constraint failed"
  | ambiguousName => "ambiguous column name"
  | tooManyTables => "too many tables in a join"
  | conditionTooDeep => "the condition is too deep"
  | tooManyValues => "too many bound values"
  | tooManySortKeys => "too many columns to sort by"

end StoreError

/-- Why a query failed. -/
inductive QueryError where
  /-- A request parameter is malformed or not allowed. -/
  | invalidParameter (parameter : String) (fault : ParameterFault)
  /-- A criteria names a field that the entity does not have. -/
  | unknownField (field : String)
  /-- An operator does not apply to a field of this kind. -/
  | unsupportedOperator
      (field : String)
      (operator : Operator)
      (kind : Kind)
  /-- An operand has another type than its field. -/
  | operandType (field : String) (operator : Operator)
  /-- The operators of a filter do not go together. -/
  | invalidFilter (field : String) (fault : FilterFault)
  /-- The store failed. -/
  | store (error : StoreError)
  deriving DecidableEq

namespace QueryError

/-- Whether the request is at fault. -/
def isClientError : QueryError → Bool
  | invalidParameter _ _ => true
  | _ => false

/-- Whether a criteria does not fit its entity. -/
def isSchemaError : QueryError → Bool
  | unknownField _ => true
  | unsupportedOperator _ _ _ => true
  | operandType _ _ => true
  | invalidFilter _ _ => true
  | _ => false

/-- The text of an error. -/
def message : QueryError → String
  | invalidParameter parameter fault =>
      "invalid value for parameter '" ++ parameter ++ "': " ++ fault.message
  | unknownField field => "unknown filter field '" ++ field ++ "'"
  | unsupportedOperator field operator kind =>
      "operator '" ++ operator.name ++ "' is not supported on " ++
        kind.name ++ " field '" ++ field ++ "'"
  | operandType field operator =>
      "operand for '" ++ field ++ "." ++ operator.name ++
        "' does not match the field type"
  | invalidFilter field fault =>
      "invalid filter on '" ++ field ++ "': " ++ fault.message
  | store error => "database error: " ++ error.message

/-- No error is the fault of both the request and the criteria. -/
theorem not_isClientError_and_isSchemaError (error : QueryError) :
    (error.isClientError && error.isSchemaError) = false := by
  cases error <;> rfl

end QueryError

end RecordQuery
