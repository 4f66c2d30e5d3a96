import RecordQuery.Page.Basic

namespace RecordQuery

/-!
# Headers of a page

Three headers describe a page: the total number of records, links to its
neighbours and to the last and the first page, and the range of records that it
holds.  The path and the resource name come from outside, so only their
printable ASCII characters are used: no line break can start another header.
-/

/-- A header with its lower-case name. -/
structure Header where
  name : String
  value : String
  deriving Repr, DecidableEq

namespace Header

/-- Whether a character is printable ASCII. -/
def isPrintable (character : Char) : Bool :=
  decide (32 ≤ character.toNat) && decide (character.toNat ≤ 126)

/-- A text with its printable ASCII characters only. -/
def sanitized (text : String) : String :=
  String.ofList (text.toList.filter isPrintable)

/-- Whether a text can be the value of a header. -/
def isEncodable (value : String) : Bool :=
  value.toList.all fun character =>
    character == '\t' ||
      (decide (32 ≤ character.toNat) && character.toNat != 127)

/-- The headers whose values can be encoded. -/
def encodable (headers : List Header) : List Header :=
  headers.filter fun header => isEncodable header.value

end Header

namespace Page

variable {Entry : Type}

/-- A link to the page of an index. -/
def link
    (page : Page Entry)
    (path : String)
    (index : UInt64)
    (relation : String) :
    String :=
  "<" ++ path ++ (if path.toList.contains '?' then "&" else "?") ++
    "page=" ++ Decimal.text index.toNat ++
    "&size=" ++ Decimal.text page.size.toNat ++
    ">; rel=\"" ++ relation ++ "\""

/-- The index of the last page; zero if there are no pages. -/
def lastIndex (page : Page Entry) : UInt64 :=
  if page.totalPages = 0 then 0 else page.totalPages - 1

/-- The links of a page: to the next, the one before, the last, the first. -/
def links (page : Page Entry) (path : String) : List String :=
  (if page.hasNext then [page.link path page.nextIndex "next"] else []) ++
    (if page.hasPrevious then
      [page.link path (page.page - 1) "prev"]
    else
      []) ++
    [page.link path page.lastIndex "last", page.link path 0 "first"]

/-- The indices of the first and the last record of a page with content. -/
def bounds (page : Page Entry) : UInt64 × UInt64 :=
  let start := capped (page.page.toNat * page.size.toNat)
  (start, capped (start.toNat + (page.content.length - 1)))

/-- The range of records of a page, a star if it has none. -/
def rangeText (page : Page Entry) : String :=
  if page.isEmpty then
    "*"
  else
    Decimal.text page.bounds.1.toNat ++ "-" ++
      Decimal.text page.bounds.2.toNat

/-- The headers of a page that is served from a path as a resource. -/
def headers (page : Page Entry) (path resource : String) : List Header :=
  let path := Header.sanitized path
  let resource := Header.sanitized resource
  Header.encodable
    [ ⟨"x-total-count", Decimal.text page.total.toNat⟩,
      ⟨"link", Text.join "," (page.links path)⟩,
      ⟨"content-range",
        resource ++ " " ++ page.rangeText ++ "/" ++
          Decimal.text page.total.toNat⟩ ]

end Page

end RecordQuery
