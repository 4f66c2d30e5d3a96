import RecordQuery.Proofs.Faults
import RecordQuery.Service

namespace RecordQuery

/-!
# The course of a query

The three queries of a service differ in what they ask for, and take the same
course (`Service.Follows`).  A query is told first.  Then a criteria that does
not compile is refused, whoever is asking; after that an unknown actor is shown
nothing; and only then the store is called, once, with what the actor may see.

The calls that an answer lists are all the calls there are: a store that agrees
on them leads to the same answer (`Service.ask_withStore_of_agrees`).
-/

/-- What a criteria and a visibility are put to, by the type of its result. -/
inductive Question : Type → Type where
  | findAll : Question (List Record)
  | findPage (request : PageRequest) : Question (Page Record)
  | count : Question UInt64

namespace Question

variable {Result : Type}

/-- The event that tells of a question. -/
def asked (entity : Entity) (criteria : Option Criteria) :
    Question Result → Event
  | findAll =>
      .findAll entity.resource (Service.describe criteria)
  | findPage request =>
      .findPage entity.resource (Service.describe criteria)
        request.page request.size
  | count =>
      .count entity.resource (Service.describe criteria)

/-- The text of that event. -/
def word : Question Result → String
  | findAll => "find by criteria"
  | findPage _ => "find by criteria"
  | count => "count by criteria"

/-- The answer for someone who may see nothing. -/
def nothing : Question Result → Result
  | findAll => []
  | findPage request => ⟨[], 0, request.page, request.size⟩
  | count => 0

/-- The call that puts a question to a store. -/
def call (predicate : Predicate) : Question Result → StoreCall
  | findAll => .findAll predicate
  | findPage request => .findPage predicate request
  | count => .count predicate

/-- What a store says to that call, and the events that it raises. -/
def outcome (store : Store) (predicate : Predicate) :
    Question Result → Traced (Except StoreError Result)
  | findAll => .quiet (store.findAll predicate)
  | findPage request => store.findPage predicate request
  | count => .quiet (store.count predicate)

end Question

/-- What may be seen of a predicate. -/
inductive Visibility.Narrows (predicate : Predicate) :
    Visibility → Predicate → Prop where
  | everything : Narrows predicate .everything predicate
  | restricted
      (scope : Sql.Condition) :
      Narrows predicate (.restricted scope) (predicate.and scope)

theorem Visibility.unresolved_or_narrows
    (visibility : Visibility)
    (predicate : Predicate) :
    visibility = .unresolved ∨
      ∃ narrowed, visibility.Narrows predicate narrowed := by
  cases visibility with
  | everything =>
      exact Or.inr ⟨predicate, .everything⟩
  | restricted scope =>
      exact Or.inr ⟨predicate.and scope, .restricted scope⟩
  | unresolved =>
      exact Or.inl rfl

/-- Whether two stores say the same to a call. -/
def StoreCall.Agrees (left right : Store) : StoreCall → Prop
  | findAll predicate => left.findAll predicate = right.findAll predicate
  | findPage predicate request =>
      left.findPage predicate request = right.findPage predicate request
  | count predicate => left.count predicate = right.count predicate
  | find key => left.find key = right.find key

namespace Service

variable {Result : Type}

/-- The answer to a question, within what may be seen. -/
def ask
    (service : Service)
    (criteria : Option Criteria)
    (visibility : Visibility) :
    Question Result → Answer Result
  | .findAll => service.findAllFor criteria visibility
  | .findPage request => service.findPageFor criteria request visibility
  | .count => service.countFor criteria visibility

/-- The answer to a question of someone who may see everything. -/
def askOpenly (service : Service) (criteria : Option Criteria) :
    Question Result → Answer Result
  | .findAll => service.findAll criteria
  | .findPage request => service.findPage criteria request
  | .count => service.count criteria

/-- The service on another store. -/
def withStore (service : Service) (store : Store) : Service :=
  { service with store := store }

/-- The courses that a question may take. -/
inductive Follows
    (service : Service)
    (question : Question Result)
    (criteria : Option Criteria) :
    Visibility → Answer Result → Prop where
  /-- The criteria does not compile, and one error is told. -/
  | refused
      {visibility : Visibility}
      {error : QueryError}
      {told : Event}
      (faulty :
        RecordQuery.compile service.store.dialect service.entity criteria =
          .error error)
      (isSchemaError : error.isSchemaError = true)
      (isError : told.level = .error) :
      Follows service question criteria visibility
        ⟨[question.asked service.entity criteria, told], [], .error error⟩
  /-- Nobody is known to show records to, and that is told. -/
  | unseen
      {predicate : Predicate}
      {told : Event}
      (compiled :
        RecordQuery.compile service.store.dialect service.entity criteria =
          .ok predicate)
      (isDebug : told.level = .debug) :
      Follows service question criteria .unresolved
        ⟨[question.asked service.entity criteria, told], [],
          .ok question.nothing⟩
  /-- The store answers. -/
  | found
      {visibility : Visibility}
      {predicate narrowed : Predicate}
      {events : List Event}
      {result : Result}
      (compiled :
        RecordQuery.compile service.store.dialect service.entity criteria =
          .ok predicate)
      (narrows : visibility.Narrows predicate narrowed)
      (answers :
        question.outcome service.store narrowed = ⟨events, .ok result⟩) :
      Follows service question criteria visibility
        ⟨question.asked service.entity criteria :: events,
          [question.call narrowed], .ok result⟩
  /-- The store fails. -/
  | failed
      {visibility : Visibility}
      {predicate narrowed : Predicate}
      {events : List Event}
      {error : StoreError}
      (compiled :
        RecordQuery.compile service.store.dialect service.entity criteria =
          .ok predicate)
      (narrows : visibility.Narrows predicate narrowed)
      (answers :
        question.outcome service.store narrowed =
          ⟨events, .error error⟩) :
      Follows service question criteria visibility
        ⟨question.asked service.entity criteria :: events,
          [question.call narrowed], .error (.store error)⟩

end Service

theorem Field.Faulty.isSchemaError
    {field : Field}
    {filter : Filter}
    {error : QueryError}
    (faulty : field.Faulty filter error) :
    error.isSchemaError = true := by
  cases faulty <;> rfl

theorem Criteria.Faulty.isSchemaError
    {criteria : Criteria}
    {entity : Entity}
    {error : QueryError}
    (faulty : criteria.Faulty entity error) :
    error.isSchemaError = true := by
  cases faulty with
  | unknownField =>
      rfl
  | ofField _ _ _ faultyField =>
      exact faultyField.isSchemaError

/-- Whatever keeps a criteria from compiling is a fault of the criteria. -/
theorem isSchemaError_of_compile
    {dialect : Sql.Dialect}
    {entity : Entity}
    {criteria : Option Criteria}
    {error : QueryError}
    (faulty : compile dialect entity criteria = .error error) :
    error.isSchemaError = true := by
  cases criteria with
  | none =>
      exact absurd faulty (by simp [compile])
  | some present =>
      exact ((Criteria.compile_eq_error_iff dialect error).mp
        faulty).isSchemaError

theorem QueryError.level_compileEvent (error : QueryError) (resource : String) :
    (error.compileEvent resource).level = .error := by
  cases error <;> rfl

namespace Question

variable {Result : Type}
variable (question : Question Result)
variable (entity : Entity)
variable (criteria : Option Criteria)

theorem level_asked : (question.asked entity criteria).level = .debug := by
  cases question <;> rfl

theorem message_asked :
    (question.asked entity criteria).message = question.word := by
  cases question <;> rfl

variable {question}

/-- Stores that say the same to the call of a question say the same to it. -/
theorem outcome_eq_of_agrees
    {left right : Store}
    {predicate : Predicate}
    (agree : (question.call predicate).Agrees left right) :
    question.outcome left predicate = question.outcome right predicate := by
  cases question with
  | findAll =>
      exact congrArg Traced.quiet agree
  | findPage request =>
      exact agree
  | count =>
      exact congrArg Traced.quiet agree

end Question

namespace Service

variable {Result : Type}
variable (service : Service)
variable (question : Question Result)
variable (criteria : Option Criteria)
variable (visibility : Visibility)

/-- The three queries are one, put to different uses. -/
theorem ask_eq_query :
    service.ask criteria visibility question =
      service.query (question.asked service.entity criteria) criteria
        visibility question.nothing question.call
        (question.outcome service.store) := by
  cases question <;> rfl

theorem askOpenly_eq_ask :
    service.askOpenly criteria question =
      service.ask criteria .everything question := by
  cases question <;> rfl

section

variable {predicate narrowed : Predicate}

theorem ask_of_compile_eq_error
    {error : QueryError}
    (faulty :
      RecordQuery.compile service.store.dialect service.entity criteria =
        .error error) :
    service.ask criteria visibility question =
      ⟨[ question.asked service.entity criteria,
          error.compileEvent service.entity.resource ],
        [], .error error⟩ := by
  rw [ask_eq_query]
  simp [query, Service.compile, tracedCompile, faulty]

variable (compiled :
  RecordQuery.compile service.store.dialect service.entity criteria =
    .ok predicate)

include compiled

theorem ask_of_unresolved :
    service.ask criteria .unresolved question =
      ⟨[ question.asked service.entity criteria,
          .unresolvedActor service.entity.resource ],
        [], .ok question.nothing⟩ := by
  rw [ask_eq_query]
  simp [query, Service.compile, tracedCompile, Traced.quiet, compiled,
    Visibility.apply]

theorem ask_of_narrows (narrows : visibility.Narrows predicate narrowed) :
    service.ask criteria visibility question =
      ⟨question.asked service.entity criteria ::
          (ofStore (question.outcome service.store narrowed)).events,
        [question.call narrowed],
        (ofStore (question.outcome service.store narrowed)).result⟩ := by
  rw [ask_eq_query]
  cases narrows <;>
    simp [query, Service.compile, tracedCompile, Traced.quiet, compiled,
    Visibility.apply]

end

/-- A question takes one of the courses. -/
theorem ask_follows :
    service.Follows question criteria visibility
      (service.ask criteria visibility question) := by
  cases compiled :
      RecordQuery.compile service.store.dialect service.entity criteria with
  | error error =>
      rw [service.ask_of_compile_eq_error question criteria visibility
        compiled]
      exact .refused compiled (isSchemaError_of_compile compiled)
        (error.level_compileEvent _)
  | ok predicate =>
      rcases visibility.unresolved_or_narrows predicate with
        rfl | ⟨narrowed, narrows⟩
      · rw [service.ask_of_unresolved question criteria compiled]
        exact .unseen compiled rfl
      · rw [service.ask_of_narrows question criteria visibility compiled
          narrows]
        rcases answered : question.outcome service.store narrowed with
          ⟨events, error | result⟩
        · exact .failed compiled narrows answered
        · exact .found compiled narrows answered

/-- An answer depends on the store only through the calls that it lists. -/
theorem ask_withStore_of_agrees
    {store : Store}
    (sameDialect : store.dialect = service.store.dialect)
    (agree :
      ∀ call ∈ (service.ask criteria visibility question).calls,
        call.Agrees store service.store) :
    (service.withStore store).ask criteria visibility question =
      service.ask criteria visibility question := by
  have sameCompilation :
      RecordQuery.compile (service.withStore store).store.dialect
          (service.withStore store).entity criteria =
        RecordQuery.compile service.store.dialect service.entity
          criteria := by
    rw [withStore, sameDialect]
  cases compiled :
      RecordQuery.compile service.store.dialect service.entity criteria with
  | error error =>
      rw [ask_of_compile_eq_error _ _ _ _ compiled,
        ask_of_compile_eq_error _ _ _ _ (sameCompilation.trans compiled)]
      rfl
  | ok predicate =>
      rcases visibility.unresolved_or_narrows predicate with
        rfl | ⟨narrowed, narrows⟩
      · rw [ask_of_unresolved _ _ _ compiled,
          ask_of_unresolved _ _ _ (sameCompilation.trans compiled)]
        rfl
      · rw [ask_of_narrows _ _ _ _ compiled narrows] at agree ⊢
        have sameOutcome :
            question.outcome (service.withStore store).store narrowed =
              question.outcome service.store narrowed :=
          Question.outcome_eq_of_agrees (agree _ List.mem_cons_self)
        rw [ask_of_narrows _ _ _ _ (sameCompilation.trans compiled) narrows,
          sameOutcome]
        rfl

end Service

/--
Every question takes one course, whatever the store is: it is told, with its own
words, and then refused, answered with nothing, or put to the store once.  The
calls that the answer lists are the only ones, and the queries that take no
visibility are those for someone who may see everything.
-/
theorem queries_follow_protocol
    {Result : Type}
    (service : Service)
    (question : Question Result)
    (criteria : Option Criteria)
    (visibility : Visibility) :
    service.Follows question criteria visibility
        (service.ask criteria visibility question) ∧
      (question.asked service.entity criteria).level = .debug ∧
      (question.asked service.entity criteria).message = question.word ∧
      (∀ store : Store, store.dialect = service.store.dialect →
        (∀ call ∈ (service.ask criteria visibility question).calls,
          call.Agrees store service.store) →
        (service.withStore store).ask criteria visibility question =
          service.ask criteria visibility question) ∧
      service.askOpenly criteria question =
        service.ask criteria .everything question :=
  ⟨service.ask_follows question criteria visibility,
    question.level_asked service.entity criteria,
    question.message_asked service.entity criteria,
    fun _ sameDialect agree =>
      service.ask_withStore_of_agrees question criteria visibility
        sameDialect agree,
    service.askOpenly_eq_ask question criteria⟩

end RecordQuery
