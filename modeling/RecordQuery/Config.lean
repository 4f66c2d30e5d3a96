import RecordQuery.Json.Member
import RecordQuery.Sort

namespace RecordQuery

/-!
# Configuration

The defaults of paging.  A configuration is read from a JSON object; members
that are left out keep their defaults, and members of other names are passed
over.
-/

/-- The defaults of paging. -/
structure Config where
  /-- The page size of a request that asks for none. -/
  defaultPageSize : UInt64
  /-- The greatest page size; greater ones are lowered to it. -/
  maxPageSize : UInt64
  /-- The direction of a sort order that names none. -/
  defaultDirection : Direction
  deriving Repr, DecidableEq

namespace Config

/-- The configuration without any changes. -/
def default : Config where
  defaultPageSize := 20
  maxPageSize := 2000
  defaultDirection := .ascending

instance : Inhabited Config := ⟨default⟩

/-- The greatest page size, which is never below one. -/
def pageSizeLimit (config : Config) : UInt64 :=
  max config.maxPageSize 1

/-- A page size brought between one and the greatest page size. -/
def clampPageSize (config : Config) (requested : UInt64) : UInt64 :=
  min (max requested 1) config.pageSizeLimit

/-- Reads a direction that is written in one of its four exact forms. -/
def direction? (value : Json.Value) : Option Direction :=
  (Json.string? value).bind fun word =>
    if word = "asc" ∨ word = "ASC" then
      some .ascending
    else if word = "desc" ∨ word = "DESC" then
      some .descending
    else
      none

/-- Reads a configuration. -/
def read? (text : String) : Option Config := do
  let members ← Json.objectMembers? text
  let defaultPageSize ←
    Json.optional? "default_page_size" Json.uint64? members
  let maxPageSize ←
    Json.optional? "max_page_size" Json.uint64? members
  let defaultDirection ←
    Json.optional? "default_sort_direction" direction? members
  some
    { defaultPageSize := defaultPageSize.getD default.defaultPageSize
      maxPageSize := maxPageSize.getD default.maxPageSize
      defaultDirection :=
        defaultDirection.getD default.defaultDirection }

end Config

end RecordQuery
