import RecordQuery.Config
import RecordQuery.Json.Text
import RecordQuery.Request.Binding

namespace RecordQuery

/-!
# Page requests

A page request names a page by its index, counted from zero, its size and its
sort orders.  It is bound from the parameters `page`, `size` and `sort`, of which
the last `page` and `size` count and every `sort` does, or from the same three
already typed.
-/

/-- Which page of a sorted list of records is wanted. -/
structure PageRequest where
  page : UInt64
  size : UInt64
  sort : List SortOrder
  deriving Repr, DecidableEq

/-- A number, or the greatest number of 64 bits if it is beyond that. -/
def capped (value : Nat) : UInt64 :=
  UInt64.ofNat (min value (UInt64.size - 1))

/-- A sort order as a JSON record. -/
def SortOrder.json (order : SortOrder) : String :=
  Json.record
    [ ("property", Json.quoted order.property),
      ("direction", Json.quoted order.direction.name) ]

namespace PageRequest

/-- The request for a page without sort orders; a page has at least size one. -/
def new (page size : UInt64) : PageRequest :=
  ⟨page, max size 1, []⟩

/-- A request with one more sort order. -/
def withSort (request : PageRequest) (order : SortOrder) : PageRequest :=
  { request with sort := request.sort ++ [order] }

/-- The number of records before the page. -/
def offset (request : PageRequest) : UInt64 :=
  capped (request.page.toNat * request.size.toNat)

/-- Reads a page index or a page size. -/
def readCount (parameter : Parameter) : Except QueryError UInt64 :=
  match Decimal.uint64? (Text.trim parameter.value) with
  | some count => .ok count
  | none => parameter.refuse (.notCount parameter.value)

/-- Adds what one parameter asks for; other parameters ask for nothing. -/
def bindParameter
    (config : Config)
    (request : PageRequest)
    (parameter : Parameter) :
    Except QueryError PageRequest :=
  if parameter.name = "page" then
    (readCount parameter).map fun page => { request with page := page }
  else if parameter.name = "size" then
    (readCount parameter).map fun size => { request with size := size }
  else if parameter.name = SortOrder.parameterName then
    (SortOrder.read parameter.value config.defaultDirection).map
      request.withSort
  else
    .ok request

/-- Adds what a list of parameters asks for; the first bad one is an error. -/
def bindAll (config : Config) :
    PageRequest → List Parameter → Except QueryError PageRequest
  | request, [] => .ok request
  | request, parameter :: rest =>
      match bindParameter config request parameter with
      | .error error => .error error
      | .ok changed => bindAll config changed rest

/-- A request whose size is not zero, with the size clamped. -/
def checked (config : Config) (request : PageRequest) :
    Except QueryError PageRequest :=
  if request.size = 0 then
    .error (.invalidParameter "size" .zeroPageSize)
  else
    .ok { request with size := config.clampPageSize request.size }

/-- The page request that a list of parameters asks for. -/
def ofParameters (config : Config) (parameters : List Parameter) :
    Except QueryError PageRequest :=
  (bindAll config ⟨0, config.defaultPageSize, []⟩ parameters).bind
    (checked config)

/-- A page request as a JSON record. -/
def json (request : PageRequest) : String :=
  Json.record
    [ ("page", Json.number request.page.toNat),
      ("size", Json.number request.size.toNat),
      ("sort", Json.list (request.sort.map SortOrder.json)) ]

end PageRequest

/-- The three paging parameters, typed. -/
structure PageParameters where
  page : Option UInt64
  size : Option UInt64
  sort : Option String
  deriving Repr, DecidableEq

namespace PageParameters

/-- Reads typed paging parameters from a JSON object. -/
def read? (text : String) : Option PageParameters := do
  let members ← Json.objectMembers? text
  let page ← Json.optional? "page" (Json.nullable? Json.uint64?) members
  let size ← Json.optional? "size" (Json.nullable? Json.uint64?) members
  let sort ← Json.optional? "sort" (Json.nullable? Json.string?) members
  some ⟨page.join, size.join, sort.join⟩

/-- The sort orders of typed parameters: none or one. -/
def orders (config : Config) (parameters : PageParameters) :
    Except QueryError (List SortOrder) :=
  match parameters.sort with
  | none => .ok []
  | some raw =>
      (SortOrder.read raw config.defaultDirection).map fun order => [order]

/-- The page request that typed parameters ask for. -/
def request (config : Config) (parameters : PageParameters) :
    Except QueryError PageRequest :=
  match parameters.orders config with
  | .error error => .error error
  | .ok orders =>
      PageRequest.checked config
        { page := parameters.page.getD 0
          size := parameters.size.getD config.defaultPageSize
          sort := orders }

end PageParameters

end RecordQuery
