import RecordQuery.Page.Request

namespace RecordQuery

/-!
# Pages

A page is a slice of all matching records with their total number.  The number
of pages and the neighbours of a page follow from the total, the index and the
size; nothing overflows, because sums and products stop at the greatest number.
-/

/-- A page of records. -/
structure Page (Entry : Type) where
  content : List Entry
  total : UInt64
  page : UInt64
  size : UInt64
  deriving Repr, DecidableEq

namespace Page

variable {Entry Changed : Type}

/-- The page of a request, given its content and the total. -/
def ofRequest
    (content : List Entry)
    (request : PageRequest)
    (total : UInt64) :
    Page Entry :=
  ⟨content, total, request.page, request.size⟩

/-- The page of a request that nothing matches. -/
def empty (request : PageRequest) : Page Entry :=
  ofRequest [] request 0

/-- The number of pages; none if a page has no size. -/
def totalPages (page : Page Entry) : UInt64 :=
  if page.size = 0 then
    0
  else if page.total % page.size = 0 then
    page.total / page.size
  else
    page.total / page.size + 1

/-- The index after the page's. -/
def nextIndex (page : Page Entry) : UInt64 :=
  capped (page.page.toNat + 1)

/-- Whether a page comes after this one. -/
def hasNext (page : Page Entry) : Bool :=
  decide (page.nextIndex < page.totalPages)

/-- Whether a page comes before this one. -/
def hasPrevious (page : Page Entry) : Bool :=
  decide (0 < page.page)

/-- Whether the page has no content. -/
def isEmpty (page : Page Entry) : Bool :=
  page.content.isEmpty

/-- The page with every entry changed. -/
def map (change : Entry → Changed) (page : Page Entry) : Page Changed :=
  ⟨page.content.map change, page.total, page.page, page.size⟩

/-- A page as a JSON record, given how its entries are written. -/
def json (entryText : Entry → String) (page : Page Entry) : String :=
  Json.record
    [ ("content", Json.list (page.content.map entryText)),
      ("total_elements", Json.number page.total.toNat),
      ("page", Json.number page.page.toNat),
      ("size", Json.number page.size.toNat) ]

/-- Changing the entries keeps the number of pages. -/
@[simp] theorem totalPages_map
    (change : Entry → Changed)
    (page : Page Entry) :
    (page.map change).totalPages = page.totalPages := rfl

end Page

end RecordQuery
