import RecordQuery.Service

namespace RecordQuery

/-!
# What a service answers from a database

A query whose criteria compiles is one select, narrowed to what may be seen.
The database runs it, or refuses it for its names or its size;
`Predicate.answer` is what becomes of a result either way.  The three queries
are then three equations.
-/

namespace Predicate

/-- The answer to a predicate as a statement, a refusal told as an error. -/
def answer {Result : Type}
    (predicate : Predicate)
    (table : String)
    (size : StatementSize)
    (result : Result) :
    Except QueryError Result :=
  (predicate.allow table size result).mapError .store

variable {Result : Type}
variable {predicate : Predicate}
variable {table : String}
variable {size : StatementSize}

theorem answer_of_taken
    (apart : predicate.NamesApart table)
    (taken : size.refusal? = none)
    (result : Result) :
    predicate.answer table size result = .ok result := by
  rw [answer, allow, if_pos apart, StatementSize.allow, taken]
  rfl

theorem answer_of_refused
    {error : StoreError}
    (apart : predicate.NamesApart table)
    (refused : size.refusal? = some error)
    (result : Result) :
    predicate.answer table size result = .error (.store error) := by
  rw [answer, allow, if_pos apart, StatementSize.allow, refused]
  rfl

/-- What is allowed is the result. -/
theorem eq_of_allow
    {result allowed : Result}
    (taken : predicate.allow table size result = .ok allowed) :
    result = allowed := by
  unfold allow StatementSize.allow at taken
  split at taken
  · split at taken
    · exact Except.ok.inj taken
    · exact absurd taken (by simp)
  · exact absurd taken (by simp)

/-- An answer that is no refusal is the result. -/
theorem eq_of_answer
    {result answer : Result}
    (answered : predicate.answer table size result = .ok answer) :
    result = answer := by
  unfold Predicate.answer at answered
  cases allowed : predicate.allow table size result with
  | error error =>
      rw [allowed] at answered
      cases answered
  | ok value =>
      rw [allowed] at answered
      exact (eq_of_allow allowed).trans (Except.ok.inj answered)

theorem answer_of_ambiguous
    (ambiguous : ¬predicate.NamesApart table)
    (size : StatementSize)
    (result : Result) :
    predicate.answer table size result =
      .error (.store .ambiguousName) := by
  rw [answer, allow, if_neg ambiguous]
  rfl

end Predicate

/-- A page is refused for the reason that its select alone is refused for. -/
theorem StatementSize.refusal?_ofPage_of_ofSelect
    {predicate : Predicate}
    {error : StoreError}
    (keys : List SortKey)
    (refused : (ofSelect predicate).refusal? = some error) :
    (ofPage predicate keys).refusal? = some error := by
  have sortKeys : (ofSelect predicate).sortKeys = 0 := rfl
  unfold refusal? at refused ⊢
  simp only [ofPage]
  split at refused
  next manyTables =>
    simpa [manyTables] using refused
  next fewTables =>
    split at refused
    next tooDeep =>
      simpa [fewTables, tooDeep] using refused
    next shallow =>
      split at refused
      next tooMany =>
        have stillTooMany :
            mostValues < (ofSelect predicate).values + 2 := by
          omega
        simpa [fewTables, shallow, stillTooMany] using refused
      next =>
        rw [sortKeys, if_neg (Nat.not_lt_zero mostSortKeys)] at refused
        exact absurd refused (by simp)

@[simp] theorem result_tracedCompile
    (dialect : Sql.Dialect)
    (entity : Entity)
    (criteria : Option Criteria) :
    (tracedCompile dialect entity criteria).result =
      compile dialect entity criteria := by
  unfold tracedCompile
  cases compiled : compile dialect entity criteria <;> rfl

namespace Service

/-- The service for an entity of a database. -/
def ofDatabase
    (database : Database)
    (entity : Entity)
    (config : Config) :
    Service :=
  ⟨entity, .ofDatabase database entity, config⟩

/-- A query with something to see gives what its call of the store gives. -/
theorem result_query
    {Result : Type}
    {service : Service}
    {criteria : Option Criteria}
    {visibility : Visibility}
    {predicate narrowed : Predicate}
    (compiled :
      RecordQuery.compile service.store.dialect service.entity criteria =
        .ok predicate)
    (visible : visibility.apply predicate = some narrowed)
    (asked : Event)
    (nothing : Result)
    (call : Predicate → StoreCall)
    (run : Predicate → Traced (Except StoreError Result)) :
    (service.query asked criteria visibility nothing call run).result =
      (ofStore (run narrowed)).result := by
  simp [query, Service.compile, compiled, visible]

/-- A call that a database allows or refuses gives the answer to it. -/
theorem result_ofStore_allow
    {Result : Type}
    (events : List Event)
    (predicate : Predicate)
    (table : String)
    (size : StatementSize)
    (result : Result) :
    (ofStore ⟨events, predicate.allow table size result⟩).result =
      predicate.answer table size result := by
  rw [Predicate.answer]
  simp only [ofStore, Traced.map]
  cases predicate.allow table size result <;> rfl

section

variable {entity : Entity}
variable {criteria : Option Criteria}
variable {visibility : Visibility}
variable {predicate narrowed : Predicate}
variable (compiled :
  RecordQuery.compile .sqlite entity criteria = .ok predicate)
variable (visible : visibility.apply predicate = some narrowed)
variable (database : Database)
variable (config : Config)

include compiled visible

/-- All records are those of the narrowed select. -/
theorem result_findAllFor :
    ((ofDatabase database entity config).findAllFor
        criteria visibility).result =
      narrowed.answer entity.table (.ofSelect narrowed)
        (database.select entity narrowed) := by
  rw [findAllFor, result_query compiled visible]
  exact result_ofStore_allow [] _ _ _ _

theorem result_countFor :
    ((ofDatabase database entity config).countFor
        criteria visibility).result =
      narrowed.answer entity.table (.ofSelect narrowed)
        (database.count entity narrowed) := by
  rw [countFor, result_query compiled visible]
  exact result_ofStore_allow [] _ _ _ _

/-- A page is that of the narrowed select, which also binds its window. -/
theorem result_findPageFor (request : PageRequest) :
    ((ofDatabase database entity config).findPageFor
        criteria request visibility).result =
      narrowed.answer entity.table
        (.ofPage narrowed (entity.resolveSort request.sort).result)
        (database.findPage entity narrowed request).result := by
  rw [findPageFor, result_query compiled visible]
  exact result_ofStore_allow _ _ _ _ _

end

end Service

end RecordQuery
