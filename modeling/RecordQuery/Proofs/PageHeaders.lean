import RecordQuery.Page.Headers
import RecordQuery.Proofs.Numerals
import RecordQuery.Proofs.Paging

namespace RecordQuery

/-!
# What the headers of a page say

A page has three headers, none of which is ever left out, since all that goes
into them is printable ASCII (`Page.headers_eq`).  The numbers in them are
computed in 64 bits, with sums and products that stop at the greatest number.
For a page that a query produces none of this shows: the numbers are those that
exact arithmetic gives (`headers_of_window`).
-/

namespace Header

/-- A text of printable ASCII characters. -/
def IsClean (text : String) : Prop :=
  ∀ character ∈ text.toList, isPrintable character = true

instance (text : String) : Decidable (IsClean text) :=
  decidable_of_iff (text.toList.all isPrintable = true) List.all_eq_true

@[simp] theorem isClean_append {left right : String} :
    IsClean (left ++ right) ↔ IsClean left ∧ IsClean right := by
  rw [IsClean, String.toList_append]
  exact List.forall_mem_append

@[simp] theorem isClean_sanitized (text : String) :
    IsClean (sanitized text) := by
  intro character member
  rw [sanitized, String.toList_ofList, List.mem_filter] at member
  exact member.2

theorem isPrintable_of_isDigit
    {character : Char}
    (isDigit : Decimal.isDigit character = true) :
    isPrintable character = true := by
  have bounds := Decimal.toNat_bounds_of_isDigit isDigit
  simp only [isPrintable, Bool.and_eq_true, decide_eq_true_eq]
  omega

@[simp] theorem isClean_decimal (value : Nat) :
    IsClean (Decimal.text value) := by
  intro character member
  rw [Decimal.toList_text] at member
  exact isPrintable_of_isDigit (Decimal.isDigit_of_mem_digits member)

theorem isClean_join
    {separator : String}
    {texts : List String}
    (cleanSeparator : IsClean separator)
    (cleanTexts : ∀ text ∈ texts, IsClean text) :
    IsClean (Text.join separator texts) := by
  induction texts with
  | nil =>
      intro character member
      exact absurd member List.not_mem_nil
  | cons first rest inductionHypothesis =>
      rw [List.forall_mem_cons] at cleanTexts
      have cleanRest := inductionHypothesis cleanTexts.2
      cases rest with
      | nil =>
          exact cleanTexts.1
      | cons second others =>
          rw [Text.join, isClean_append, isClean_append]
          exact ⟨⟨cleanTexts.1, cleanSeparator⟩, cleanRest⟩

/-- Printable ASCII can always be the value of a header. -/
theorem isEncodable_of_isClean
    {value : String}
    (isClean : IsClean value) :
    isEncodable value = true := by
  rw [isEncodable, List.all_eq_true]
  intro character member
  have printable := isClean character member
  simp only [isPrintable, Bool.and_eq_true, decide_eq_true_eq] at printable
  have notDelete : character.toNat ≠ 127 := by omega
  simp [printable.1, notDelete]

theorem encodable_of_isClean
    {headers : List Header}
    (allClean : ∀ header ∈ headers, IsClean header.value) :
    encodable headers = headers := by
  rw [encodable, List.filter_eq_self]
  intro header member
  exact isEncodable_of_isClean (allClean header member)

end Header

/-- A link from a page: what the page of the index is to it. -/
structure Link where
  relation : String
  index : Nat
  deriving Repr, DecidableEq

/-- A link to a page of a size, under a path. -/
def Link.text (path : String) (size : Nat) (link : Link) : String :=
  "<" ++ path ++ (if path.toList.contains '?' then "&" else "?") ++
    "page=" ++ Decimal.text link.index ++
    "&size=" ++ Decimal.text size ++
    ">; rel=\"" ++ link.relation ++ "\""

namespace Page

section

variable {Entry : Type}
variable {page : Page Entry}

theorem link_eq
    (page : Page Entry)
    (path : String)
    (index : UInt64)
    (relation : String) :
    page.link path index relation =
      Link.text path page.size.toNat ⟨relation, index.toNat⟩ :=
  rfl

theorem isClean_link
    {path relation : String}
    (cleanPath : Header.IsClean path)
    (cleanRelation : Header.IsClean relation)
    (page : Page Entry)
    (index : UInt64) :
    Header.IsClean (page.link path index relation) := by
  have cleanSeparator :
      Header.IsClean (if path.toList.contains '?' then "&" else "?") := by
    split <;> decide
  unfold link
  simp only [Header.isClean_append, Header.isClean_decimal, cleanPath,
    cleanSeparator, cleanRelation, and_true]
  decide

theorem isClean_of_mem_links
    {path text : String}
    (cleanPath : Header.IsClean path)
    (member : text ∈ page.links path) :
    Header.IsClean text := by
  simp only [links, List.mem_append, List.mem_ite_nil_right,
    List.mem_cons, List.not_mem_nil, or_false] at member
  obtain (⟨-, rfl⟩ | ⟨-, rfl⟩) | rfl | rfl := member <;>
    exact isClean_link cleanPath (by decide) page _

@[simp] theorem isClean_rangeText (page : Page Entry) :
    Header.IsClean page.rangeText := by
  unfold rangeText
  split
  · decide
  · simp only [Header.isClean_append, Header.isClean_decimal, and_true,
      true_and]
    decide

/-- The headers of a page as they are written, before they are encoded. -/
def drafts (page : Page Entry) (path resource : String) : List Header :=
  [ ⟨"x-total-count", Decimal.text page.total.toNat⟩,
    ⟨"link", Text.join "," (page.links (Header.sanitized path))⟩,
    ⟨"content-range",
      Header.sanitized resource ++ " " ++ page.rangeText ++ "/" ++
        Decimal.text page.total.toNat⟩ ]

theorem isClean_of_mem_drafts
    {path resource : String}
    {header : Header}
    (member : header ∈ page.drafts path resource) :
    Header.IsClean header.value := by
  revert header
  simp only [drafts, List.forall_mem_cons, List.not_mem_nil, false_implies,
    implies_true, and_true]
  refine ⟨Header.isClean_decimal _, ?_, ?_⟩
  · exact Header.isClean_join (by decide) fun text member =>
      isClean_of_mem_links (Header.isClean_sanitized path) member
  · simp only [Header.isClean_append, Header.isClean_decimal,
      Header.isClean_sanitized, isClean_rangeText, and_true, true_and]
    decide

/-- Every page has its three headers. -/
theorem headers_eq (page : Page Entry) (path resource : String) :
    page.headers path resource =
      [ ⟨"x-total-count", Decimal.text page.total.toNat⟩,
        ⟨"link", Text.join "," (page.links (Header.sanitized path))⟩,
        ⟨"content-range",
          Header.sanitized resource ++ " " ++ page.rangeText ++ "/" ++
            Decimal.text page.total.toNat⟩ ] :=
  Header.encodable_of_isClean fun _ member => isClean_of_mem_drafts member

end

/-- The index of the last page of some entries, zero if there are none. -/
def lastOf (total size : Nat) : Nat :=
  if total = 0 then 0 else (total - 1) / size

/-- The links of the page of an index, in their order. -/
def linksOf (total size index : Nat) : List Link :=
  (if (index + 1) * size < total then [⟨"next", index + 1⟩] else []) ++
    (if 0 < index then [⟨"prev", index - 1⟩] else []) ++
    [⟨"last", lastOf total size⟩, ⟨"first", 0⟩]

/-- The range of so many entries from a start, a star if there are none. -/
def rangeOf (start length : Nat) : String :=
  if length = 0 then
    "*"
  else
    Decimal.text start ++ "-" ++ Decimal.text (start + length - 1)

/--
A page as a query produces it: it holds the entries from its start on, as many
as its size allows, and its start is a number of 64 bits.
-/
structure IsWindow {Entry : Type} (page : Page Entry) : Prop where
  sized : 0 < page.size.toNat
  start_lt : page.page.toNat * page.size.toNat < UInt64.size
  length_content :
    page.content.length =
      min page.size.toNat
        (page.total.toNat - page.page.toNat * page.size.toNat)

section

variable {total size : Nat}

/-- There is one page more than the index of the last one. -/
theorem countOf_eq_lastOf_succ
    (positive : 0 < size)
    (filled : total ≠ 0) :
    countOf total size = lastOf total size + 1 := by
  -- The last page starts before the end, and the one after it does not.
  have starts : lastOf total size < countOf total size := by
    rw [lt_countOf_iff positive, lastOf, if_neg filled]
    have notAfter := Nat.div_mul_le_self (total - 1) size
    omega
  have ends : ¬lastOf total size + 1 < countOf total size := by
    rw [lt_countOf_iff positive, lastOf, if_neg filled, Nat.not_lt,
      Nat.succ_mul]
    have reached := Nat.lt_div_mul_add (a := total - 1) positive
    omega
  omega

theorem countOf_zero (size : Nat) : countOf 0 size = 0 := by
  simp [countOf]

/-- The pages, a first one always among them, end with the last index. -/
theorem max_countOf_eq (positive : 0 < size) (total : Nat) :
    max 1 (countOf total size) = lastOf total size + 1 := by
  by_cases isEmpty : total = 0
  · rw [isEmpty, countOf_zero]
    rfl
  · rw [countOf_eq_lastOf_succ positive isEmpty]
    omega

/-- Every link of a page of some entries leads to one of their pages. -/
theorem index_le_of_mem_linksOf
    {index : Nat}
    {link : Link}
    (positive : 0 < size)
    (listed : index ≤ lastOf total size)
    (member : link ∈ linksOf total size index) :
    link.index ≤ lastOf total size := by
  simp only [linksOf, List.mem_append, List.mem_ite_nil_right,
    List.mem_cons, List.not_mem_nil, or_false] at member
  obtain (⟨starts, rfl⟩ | ⟨-, rfl⟩) | rfl | rfl := member
  · rw [← lt_countOf_iff positive] at starts
    have count := max_countOf_eq positive total
    dsimp only
    omega
  · dsimp only
    omega
  · exact Nat.le_refl _
  · exact Nat.zero_le _

/-- The index of a link is bounded as the page's own and the total are. -/
theorem index_lt_of_mem_linksOf
    {index bound : Nat}
    {link : Link}
    (positive : 0 < size)
    (total_lt : total < bound)
    (index_lt : index < bound)
    (member : link ∈ linksOf total size index) :
    link.index < bound := by
  simp only [linksOf, List.mem_append, List.mem_ite_nil_right,
    List.mem_cons, List.not_mem_nil, or_false] at member
  obtain (⟨starts, rfl⟩ | ⟨-, rfl⟩) | rfl | rfl := member
  · have notAfter := Nat.le_mul_of_pos_right (index + 1) positive
    dsimp only
    omega
  · dsimp only
    omega
  · have notAfter := Nat.div_le_self (total - 1) size
    dsimp only [lastOf]
    split <;> omega
  · exact Nat.zero_lt_of_lt index_lt

/-- A page is the last one exactly when it has no link to a next one. -/
theorem eq_lastOf_iff
    {index : Nat}
    (positive : 0 < size)
    (listed : index ≤ lastOf total size) :
    index = lastOf total size ↔
      ∀ link ∈ linksOf total size index, link.relation ≠ "next" := by
  have count := max_countOf_eq positive total
  have hasNext_iff :
      (∃ link ∈ linksOf total size index, link.relation = "next") ↔
        index + 1 < countOf total size := by
    rw [lt_countOf_iff positive]
    by_cases starts : (index + 1) * size < total <;>
      by_cases notFirst : 0 < index <;>
        simp [linksOf, starts, notFirst]
  have noNext_iff := not_congr hasNext_iff
  simp only [not_exists, not_and] at noNext_iff
  rw [noNext_iff]
  omega

end

section

variable {Entry : Type}
variable {page : Page Entry}

theorem toNat_lastIndex (sized : 0 < page.size.toNat) :
    page.lastIndex.toNat = lastOf page.total.toNat page.size.toNat := by
  have count := toNat_totalPages sized
  unfold lastIndex
  by_cases isEmpty : page.total.toNat = 0
  · rw [isEmpty, countOf_zero] at count
    rw [if_pos (UInt64.toNat_inj.mp count), lastOf, if_pos isEmpty]
    rfl
  · rw [countOf_eq_lastOf_succ sized isEmpty] at count
    have notZero : page.totalPages ≠ 0 := by
      intro isZero
      simp [isZero] at count
    have positive : (1 : UInt64) ≤ page.totalPages := by
      rw [UInt64.le_iff_toNat_le, count, UInt64.toNat_one]
      omega
    rw [if_neg notZero, UInt64.toNat_sub_of_le _ _ positive, count]
    rfl

theorem hasNext_iff_starts (sized : 0 < page.size.toNat) :
    page.hasNext = true ↔
      (page.page.toNat + 1) * page.size.toNat < page.total.toNat :=
  (hasNext_iff sized).trans (lt_countOf_iff sized _ _)

/-- The next index does not overflow where there is a next page. -/
theorem toNat_nextIndex
    (sized : 0 < page.size.toNat)
    (continues : page.hasNext = true) :
    page.nextIndex.toNat = page.page.toNat + 1 := by
  have before := (hasNext_iff sized).mp continues
  have few := countOf_le sized page.total.toNat
  have fits := page.total.toNat_lt
  have wide : UInt64.size - 1 = 2 ^ 64 - 1 := rfl
  rw [nextIndex, toNat_capped]
  omega

/-- The index before does not underflow where there is a page before. -/
theorem toNat_page_sub_one (continues : page.hasPrevious = true) :
    (page.page - 1).toNat = page.page.toNat - 1 := by
  rw [hasPrevious, decide_eq_true_iff, UInt64.lt_iff_toNat_lt] at continues
  have positive : (1 : UInt64) ≤ page.page := by
    rw [UInt64.le_iff_toNat_le]
    exact continues
  rw [UInt64.toNat_sub_of_le _ _ positive]
  rfl

theorem hasPrevious_iff :
    page.hasPrevious = true ↔ 0 < page.page.toNat := by
  rw [hasPrevious, decide_eq_true_iff, UInt64.lt_iff_toNat_lt]
  rfl

/-- The links of a page with a size are those of exact arithmetic. -/
theorem links_eq (sized : 0 < page.size.toNat) (path : String) :
    page.links path =
      (linksOf page.total.toNat page.size.toNat page.page.toNat).map
        (Link.text path page.size.toNat) := by
  have next :
      (if page.hasNext then [page.link path page.nextIndex "next"] else []) =
        (if (page.page.toNat + 1) * page.size.toNat < page.total.toNat then
          [Link.mk "next" (page.page.toNat + 1)]
        else
          []).map (Link.text path page.size.toNat) := by
    simp only [← hasNext_iff_starts sized]
    split
    next continues =>
      rw [link_eq, toNat_nextIndex sized continues]
      rfl
    next =>
      rfl
  have previous :
      (if page.hasPrevious then
          [page.link path (page.page - 1) "prev"]
        else
          []) =
        (if 0 < page.page.toNat then
          [Link.mk "prev" (page.page.toNat - 1)]
        else
          []).map (Link.text path page.size.toNat) := by
    simp only [← hasPrevious_iff]
    split
    next continues =>
      rw [link_eq, toNat_page_sub_one continues]
      rfl
    next =>
      rfl
  rw [links, next, previous, link_eq, link_eq, toNat_lastIndex sized,
    linksOf, List.map_append, List.map_append]
  rfl

namespace IsWindow

variable (window : page.IsWindow)

include window

/-- A page with content ends before the end of all entries. -/
theorem end_lt_total (notEmpty : page.content.length ≠ 0) :
    page.page.toNat * page.size.toNat + page.content.length - 1 <
      page.total.toNat := by
  have length := window.length_content
  omega

/-- The range of a page is that of exact arithmetic. -/
theorem rangeText_eq :
    page.rangeText =
      rangeOf (page.page.toNat * page.size.toNat) page.content.length := by
  have start :
      page.bounds.1.toNat = page.page.toNat * page.size.toNat := by
    rw [bounds, toNat_capped]
    exact Nat.min_eq_left (Nat.le_sub_one_of_lt window.start_lt)
  unfold rangeText rangeOf
  by_cases isEmpty : page.content.length = 0
  · have noContent : page.isEmpty = true := by
      simpa [Page.isEmpty] using isEmpty
    rw [if_pos noContent, if_pos isEmpty]
  · have hasContent : ¬page.isEmpty = true := by
      simpa [Page.isEmpty] using isEmpty
    -- The sum stops at the greatest number, but the total is not beyond it.
    have finish :
        page.bounds.2.toNat =
          page.page.toNat * page.size.toNat + page.content.length - 1 := by
      have before := window.end_lt_total isEmpty
      have fits := page.total.toNat_lt
      have wide : UInt64.size - 1 = 2 ^ 64 - 1 := rfl
      have second :
          page.bounds.2.toNat =
            min (page.bounds.1.toNat + (page.content.length - 1))
              (UInt64.size - 1) :=
        toNat_capped _
      rw [second, start]
      omega
    rw [if_neg hasContent, if_neg isEmpty, start, finish]

end IsWindow

end

end Page

/-- The page of a query is the window of its request. -/
theorem Database.isWindow_findPage
    {database : Database}
    {entity : Entity}
    {predicate : Predicate}
    {request : PageRequest}
    (sized : 0 < request.size.toNat)
    (start_lt : request.page.toNat * request.size.toNat < UInt64.size)
    (few : (database.select entity predicate).length < UInt64.size) :
    (database.findPage entity predicate request).result.IsWindow where
  sized := sized
  start_lt := start_lt
  length_content := by
    have offset :
        request.offset.toNat = request.page.toNat * request.size.toNat := by
      rw [PageRequest.offset, toNat_capped]
      exact Nat.min_eq_left (Nat.le_sub_one_of_lt start_lt)
    have total :
        (database.findPage entity predicate request).result.total.toNat =
          (database.select entity predicate).length :=
      UInt64.toNat_ofNat_of_lt' few
    have content :
        (database.findPage entity predicate request).result.content =
          ((sorted (entity.resolveSort request.sort).result
            (database.select entity predicate)).drop
              request.offset.toNat).take request.size.toNat := rfl
    rw [content, total, offset, List.length_take, List.length_drop, sorted,
      List.length_mergeSort]
    rfl

/--
The headers of a page count exactly: every number in them is that of unbounded
arithmetic, and fits 64 bits.  As long as a page is one of those there are, its
links lead to such pages as well, and it is the last one exactly when it has no
next one.
-/
theorem headers_of_window
    {Entry : Type}
    {page : Page Entry}
    (window : page.IsWindow)
    (path resource : String) :
    page.headers path resource =
      [ ⟨"x-total-count", Decimal.text page.total.toNat⟩,
        ⟨"link",
          Text.join ","
            ((Page.linksOf page.total.toNat page.size.toNat
              page.page.toNat).map
                (Link.text (Header.sanitized path) page.size.toNat))⟩,
        ⟨"content-range",
          Header.sanitized resource ++ " " ++
            Page.rangeOf (page.page.toNat * page.size.toNat)
              page.content.length ++
            "/" ++ Decimal.text page.total.toNat⟩ ] ∧
    (page.content ≠ [] →
      page.page.toNat * page.size.toNat + page.content.length - 1 <
        page.total.toNat) ∧
    (∀ link ∈
        Page.linksOf page.total.toNat page.size.toNat page.page.toNat,
      link.index < UInt64.size) ∧
    (page.page.toNat < max 1 page.totalPages.toNat →
      (∀ link ∈
          Page.linksOf page.total.toNat page.size.toNat page.page.toNat,
        link.index ≤ Page.lastOf page.total.toNat page.size.toNat) ∧
      (page.page.toNat = Page.lastOf page.total.toNat page.size.toNat ↔
        ∀ link ∈
            Page.linksOf page.total.toNat page.size.toNat page.page.toNat,
          link.relation ≠ "next")) := by
  have sized := window.sized
  refine ⟨?_, ?_, ?_, ?_⟩
  -- That the numbers are exact rests on the start being one of 64 bits and on
  -- the end lying before the total; the rest is arithmetic of links alone.
  · rw [Page.headers_eq, Page.links_eq sized, window.rangeText_eq]
  · intro notEmpty
    exact window.end_lt_total (by simpa using notEmpty)
  · intro link member
    exact Page.index_lt_of_mem_linksOf sized page.total.toNat_lt
      page.page.toNat_lt member
  · rw [Page.toNat_totalPages sized, Page.max_countOf_eq sized,
      Nat.lt_succ_iff]
    intro listed
    exact ⟨fun link member =>
      Page.index_le_of_mem_linksOf sized listed member,
      Page.eq_lastOf_iff sized listed⟩

namespace Club

/-- The second page of the seeded players, two on a page. -/
def lastPlayers : Page Record :=
  (seeded.findPage player .everything ⟨1, 2, []⟩).result

end Club

/-- The second page of two players each holds the last of three. -/
theorem headers_of_window_players :
    Club.lastPlayers.IsWindow ∧
      Club.lastPlayers.page.toNat <
        max 1 Club.lastPlayers.totalPages.toNat ∧
      Club.lastPlayers.headers "/api/players?sort=id\r\n" "players" =
        [ ⟨"x-total-count", "3"⟩,
          ⟨"link",
            "</api/players?sort=id&page=0&size=2>; rel=\"prev\"," ++
              "</api/players?sort=id&page=1&size=2>; rel=\"last\"," ++
              "</api/players?sort=id&page=0&size=2>; rel=\"first\""⟩,
          ⟨"content-range", "players 2-2/3"⟩ ] ∧
      Club.lastPlayers.page.toNat =
        Page.lastOf Club.lastPlayers.total.toNat
          Club.lastPlayers.size.toNat := by
  have window : Club.lastPlayers.IsWindow :=
    Database.isWindow_findPage (by decide) (by decide) (by decide)
  have total : Club.lastPlayers.total = 3 := by
    decide
  have length : Club.lastPlayers.content.length = 1 := by
    rw [window.length_content, total]
    decide
  have listed :
      Club.lastPlayers.page.toNat <
        max 1 Club.lastPlayers.totalPages.toNat := by
    decide
  obtain ⟨headers, -, -, links⟩ :=
    headers_of_window window "/api/players?sort=id\r\n" "players"
  refine ⟨window, listed, ?_, (links listed).2.mpr (by decide)⟩
  rw [headers, total, length]
  decide

end RecordQuery
