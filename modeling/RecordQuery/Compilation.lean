import RecordQuery.Criteria
import RecordQuery.Event
import RecordQuery.Predicate
import RecordQuery.Sql.Like

namespace RecordQuery

/-!
# Compiling a criteria

A criteria compiles to a predicate, or to the first fault found in it.  Unknown
fields come first; then fields on own columns and fields on related records, in
the order of the entity.  Each populated operator becomes one test, in the order
of the operators, and each populated field one condition.  The dialect decides
only how a substring is looked for and that Postgres compares enumerations as
texts.
-/

namespace Field

/-- The populated operator that a field's kind does not support. -/
def unsupported? (field : Field) (filter : Filter) : Option Operator :=
  filter.operators.find? fun operator => !field.kind.supports operator

/-- The operator of an operand that a field's kind does not accept. -/
def unaccepted? (field : Field) (filter : Filter) : Option Operator :=
  (filter.values.find? fun entry => !field.kind.accepts entry.2).map
    Prod.fst

/-- Why a filter cannot be applied to a field. -/
def fault? (field : Field) (filter : Filter) : Option QueryError :=
  match filter.fault? with
  | some fault => some (.invalidFilter field.name fault)
  | none =>
      match field.unsupported? filter with
      | some operator =>
          some (.unsupportedOperator field.name operator field.kind)
      | none =>
          (field.unaccepted? filter).map (.operandType field.name)

end Field

namespace Sql

/-- The column of a field as its values are compared. -/
def comparedTarget (dialect : Dialect) (kind : Kind) (column : ColumnRef) :
    Target :=
  match kind, dialect with
  | .enumeration _, .postgres => ⟨column, some .text⟩
  | _, _ => .plain column

/-- The test whether a text occurs in a column. -/
def substringTest
    (dialect : Dialect)
    (column : ColumnRef)
    (negated : Bool)
    (substring : String) :
    Test :=
  match dialect with
  | .sqlite => .position (.plain column) negated substring
  | .mysql => .position ⟨column, some .binary⟩ negated substring
  | .postgres => .like (.plain column) negated (containsPattern substring)

/-- The test that an operator with its operand asks for. -/
def testOf?
    (dialect : Dialect)
    (kind : Kind)
    (column : ColumnRef) :
    Operator → Operand → Option Test
  | .equals, .value value =>
      some (.compare (comparedTarget dialect kind column) .equal value)
  | .notEquals, .value value =>
      some (.compare (comparedTarget dialect kind column) .notEqual value)
  | .oneOf, .values values =>
      some (.member (comparedTarget dialect kind column) false values)
  | .noneOf, .values values =>
      some (.member (comparedTarget dialect kind column) true values)
  | .specified, .flag flag =>
      some (.null (comparedTarget dialect kind column) flag)
  | .greaterThan, .value value =>
      some (.compare (comparedTarget dialect kind column) .greater value)
  | .atLeast, .value value =>
      some (.compare (comparedTarget dialect kind column) .atLeast value)
  | .lessThan, .value value =>
      some (.compare (comparedTarget dialect kind column) .less value)
  | .atMost, .value value =>
      some (.compare (comparedTarget dialect kind column) .atMost value)
  | .contains, .substring substring =>
      some (substringTest dialect column false substring)
  | .lacks, .substring substring =>
      some (substringTest dialect column true substring)
  | _, _ => none

/-- The tests that a filter asks for, in the order of its operators. -/
def testsOf
    (dialect : Dialect)
    (kind : Kind)
    (column : ColumnRef)
    (filter : Filter) :
    List Test :=
  Operator.all.filterMap fun operator =>
    (filter.operand? operator).bind (testOf? dialect kind column operator)

/-- The condition that a filter on a field asks for. -/
def conditionOf
    (dialect : Dialect)
    (table : String)
    (field : Field)
    (filter : Filter) :
    Condition :=
  .all
    ((testsOf dialect field.kind (field.columnRef table) filter).map .test)

end Sql

namespace Criteria

/-- The filter of a field if it constrains the field. -/
def populated? (criteria : Criteria) (field : String) : Option Filter :=
  (criteria.filter? field).filter fun filter => !filter.isEmpty

/-- The first populated field that the entity does not have. -/
def unknownField? (criteria : Criteria) (entity : Entity) : Option String :=
  (criteria.fields.find? fun entry =>
    (entity.field? entry.1).isNone).map Prod.fst

/-- Adds the conditions and joins of a list of fields to a predicate. -/
def compileFields
    (dialect : Sql.Dialect)
    (table : String)
    (criteria : Criteria) :
    List Field → Predicate → Except QueryError Predicate
  | [], predicate => .ok predicate
  | field :: rest, predicate =>
      match criteria.populated? field.name with
      | none => compileFields dialect table criteria rest predicate
      | some filter =>
          match field.fault? filter with
          | some error => .error error
          | none =>
              compileFields dialect table criteria rest
                ((predicate.addJoinOf field).and
                  (Sql.conditionOf dialect table field filter))

/-- The predicate of a criteria, or the first fault in it. -/
def compile
    (dialect : Sql.Dialect)
    (entity : Entity)
    (criteria : Criteria) :
    Except QueryError Predicate :=
  match criteria.unknownField? entity with
  | some field => .error (.unknownField field)
  | none =>
      compileFields dialect entity.table criteria entity.compileOrder
        { Predicate.everything with distinct := criteria.distinct }

end Criteria

/-- The predicate of a criteria; without a criteria everything is wanted. -/
def compile
    (dialect : Sql.Dialect)
    (entity : Entity) :
    Option Criteria → Except QueryError Predicate
  | none => .ok .everything
  | some criteria => criteria.compile dialect entity

/-- The event that tells of a failed compilation. -/
def QueryError.compileEvent (error : QueryError) (resource : String) :
    Event :=
  match error with
  | .unknownField field => .unknownField field resource
  | _ => .uncompilable error resource

/-- A compilation with the event that tells of its failure. -/
def tracedCompile
    (dialect : Sql.Dialect)
    (entity : Entity)
    (criteria : Option Criteria) :
    Traced (Except QueryError Predicate) :=
  let compiled := compile dialect entity criteria
  match compiled with
  | .ok _ => .quiet compiled
  | .error error => ⟨[error.compileEvent entity.resource], compiled⟩

end RecordQuery
