import RecordQuery.Compilation
import RecordQuery.Database.Limits
import RecordQuery.Database.Query
import RecordQuery.Visibility

namespace RecordQuery

/-!
# The query service

A service answers queries on one entity from a store.  It compiles the criteria,
narrows the predicate to what the actor may see, and calls the store at most
once.  An answer holds the result together with the events raised and the calls
made, so that what a query does can be seen without running anything.
-/

/-- Something that holds records and can be queried. -/
structure Store where
  dialect : Sql.Dialect
  findAll : Predicate → Except StoreError (List Record)
  findPage :
    Predicate → PageRequest → Traced (Except StoreError (Page Record))
  count : Predicate → Except StoreError UInt64
  find : Int64 → Except StoreError (Option Record)

/-- A call of a store. -/
inductive StoreCall where
  | findAll (predicate : Predicate)
  | findPage (predicate : Predicate) (request : PageRequest)
  | count (predicate : Predicate)
  | find (key : Int64)

namespace StoreCall

/-- The name of the store's operation. -/
def name : StoreCall → String
  | findAll _ => "find_all"
  | findPage _ _ => "find_page"
  | count _ => "count"
  | find _ => "find_by_id"

end StoreCall

namespace Store

/-- The store of an entity in a database, for what the database takes. -/
def ofDatabase (database : Database) (entity : Entity) : Store where
  dialect := .sqlite
  findAll predicate :=
    predicate.allow entity.table (.ofSelect predicate)
      (database.select entity predicate)
  findPage predicate request :=
    let keys := (entity.resolveSort request.sort).result
    (database.findPage entity predicate request).map
      (predicate.allow entity.table (.ofPage predicate keys))
  count predicate :=
    predicate.allow entity.table (.ofSelect predicate)
      (database.count entity predicate)
  find key := .ok (database.find? entity key)

/-- A store that answers every call with the same error. -/
def failing (error : StoreError) : Store where
  dialect := .sqlite
  findAll _ := .error error
  findPage _ _ := .quiet (.error error)
  count _ := .error error
  find _ := .error error

end Store

/-- The result of a query with the events and the calls that led to it. -/
structure Answer (Result : Type) where
  events : List Event
  calls : List StoreCall
  result : Except QueryError Result

/-- A service for the queries on one entity. -/
structure Service where
  entity : Entity
  store : Store
  config : Config

namespace Service

/-- The text of a criteria in events. -/
def describe : Option Criteria → String
  | none => "none"
  | some criteria => criteria.display

/-- The page request that parameters ask this service for. -/
def pageRequest (service : Service) (parameters : List Parameter) :
    Except QueryError PageRequest :=
  PageRequest.ofParameters service.config parameters

/-- The predicate of a criteria for this service's store. -/
def compile (service : Service) (criteria : Option Criteria) :
    Traced (Except QueryError Predicate) :=
  tracedCompile service.store.dialect service.entity criteria

/-- What a store call gives: its events and its result, errors wrapped. -/
def ofStore {Result : Type}
    (called : Traced (Except StoreError Result)) :
    Traced (Except QueryError Result) :=
  called.map fun outcome =>
    match outcome with
    | .ok result => .ok result
    | .error error => .error (.store error)

/--
The course of every query: an event, a compilation, and then either the answer
for nobody or one call of the store.
-/
def query {Result : Type}
    (service : Service)
    (asked : Event)
    (criteria : Option Criteria)
    (visibility : Visibility)
    (nothing : Result)
    (call : Predicate → StoreCall)
    (run : Predicate → Traced (Except StoreError Result)) :
    Answer Result :=
  let compiled := service.compile criteria
  match compiled.result with
  | .error error =>
      ⟨asked :: compiled.events, [], .error error⟩
  | .ok predicate =>
      match visibility.apply predicate with
      | none =>
          ⟨[asked, .unresolvedActor service.entity.resource], [],
            .ok nothing⟩
      | some narrowed =>
          let called := ofStore (run narrowed)
          ⟨asked :: called.events, [call narrowed], called.result⟩

/-- Every record that a criteria asks for and the actor may see. -/
def findAllFor
    (service : Service)
    (criteria : Option Criteria)
    (visibility : Visibility) :
    Answer (List Record) :=
  service.query
    (.findAll service.entity.resource (describe criteria))
    criteria visibility [] .findAll
    fun predicate => .quiet (service.store.findAll predicate)

/-- One page of the records asked for, with their total number. -/
def findPageFor
    (service : Service)
    (criteria : Option Criteria)
    (request : PageRequest)
    (visibility : Visibility) :
    Answer (Page Record) :=
  service.query
    (.findPage service.entity.resource (describe criteria)
      request.page request.size)
    criteria visibility (.empty request)
    (fun predicate => .findPage predicate request)
    fun predicate => service.store.findPage predicate request

/-- The number of the records asked for. -/
def countFor
    (service : Service)
    (criteria : Option Criteria)
    (visibility : Visibility) :
    Answer UInt64 :=
  service.query
    (.count service.entity.resource (describe criteria))
    criteria visibility 0 .count
    fun predicate => .quiet (service.store.count predicate)

/-- Every record that a criteria asks for. -/
def findAll (service : Service) (criteria : Option Criteria) :
    Answer (List Record) :=
  service.findAllFor criteria .everything

/-- One page of the records that a criteria asks for. -/
def findPage
    (service : Service)
    (criteria : Option Criteria)
    (request : PageRequest) :
    Answer (Page Record) :=
  service.findPageFor criteria request .everything

/-- The number of the records that a criteria asks for. -/
def count (service : Service) (criteria : Option Criteria) :
    Answer UInt64 :=
  service.countFor criteria .everything

/-- The record of a key. -/
def findOne (service : Service) (key : Int64) : Answer (Option Record) :=
  let called := ofStore (.quiet (service.store.find key))
  ⟨.findOne service.entity.resource key :: called.events, [.find key],
    called.result⟩

end Service

end RecordQuery
