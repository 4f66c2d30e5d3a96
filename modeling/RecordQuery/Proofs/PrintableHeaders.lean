import RecordQuery.Proofs.PageHeaders

namespace RecordQuery

/-!
# What can get into a header

The path and the resource name under which a page is served may be any texts,
and a page may hold any numbers.  Whatever they are, a page has its three
headers, with nothing in them but printable ASCII: neither can one of the texts
start a header of its own, nor can it keep one of the three from being sent
(`Page.headers_printable`).
-/

namespace Header

/-- A text without its control characters and all that is not ASCII. -/
def stripped (text : String) : String :=
  String.ofList
    (text.toList.filter fun character =>
      decide (character.toNat < 128) &&
        !(decide (character.toNat < 32) || character.toNat == 127))

/-- What sanitizing leaves out may as well be left out before. -/
theorem sanitized_stripped (text : String) :
    sanitized (stripped text) = sanitized text := by
  rw [sanitized, stripped, String.toList_ofList, List.filter_filter,
    sanitized]
  congr 2
  funext character
  rw [Bool.eq_iff_iff]
  simp only [isPrintable, Bool.and_eq_true, decide_eq_true_eq,
    Bool.not_eq_true', Bool.or_eq_false_iff, decide_eq_false_iff_not,
    beq_eq_false_iff_ne]
  omega

end Header

namespace Page

/--
A page has exactly its three headers, made of printable ASCII only.

None is ever left out, by any rule for header values that admits printable
ASCII.  Characters of the path and the resource name that are not printable
ASCII make no difference.
-/
theorem headers_printable
    {admits : String → Bool}
    (admitsClean :
      ∀ value, Header.IsClean value → admits value = true)
    {Entry : Type}
    (page : Page Entry)
    (path resource : String) :
    (page.headers path resource).map Header.name =
        ["x-total-count", "link", "content-range"] ∧
      (∀ header ∈ page.headers path resource,
        ∀ character ∈ header.value.toList,
          0x20 ≤ character.toNat ∧ character.toNat ≤ 0x7E) ∧
      page.headers path resource = page.drafts path resource ∧
      ((page.drafts path resource).filter fun header =>
          admits header.value) =
        page.drafts path resource ∧
      page.headers (Header.stripped path) (Header.stripped resource) =
        page.headers path resource := by
  have written : page.headers path resource = page.drafts path resource :=
    page.headers_eq path resource
  refine ⟨?_, ?_, written, ?_, ?_⟩
  · rw [written]
    rfl
  · rw [written]
    intro header member character isCharacter
    have printable := isClean_of_mem_drafts member character isCharacter
    simpa [Header.isPrintable] using printable
  · rw [List.filter_eq_self]
    intro header member
    exact admitsClean header.value (isClean_of_mem_drafts member)
  · rw [written, headers_eq, drafts, Header.sanitized_stripped,
      Header.sanitized_stripped]

end Page

namespace Club

/-- A page that answers no request: it has a player, and no size. -/
def unsizedPage : Page String := ⟨["Alice Smith"], 3, 2, 0⟩

end Club

/-- Line breaks in the path and the resource name start no header. -/
theorem Page.headers_printable_unsizedPage :
    (∀ value, Header.IsClean value → Header.isEncodable value = true) ∧
      (Club.unsizedPage.headers "/api/é\r\nSet-Cookie: a=b" "players\r\n").map
          Header.name =
        ["x-total-count", "link", "content-range"] ∧
      Club.unsizedPage.headers "/api/é\r\nSet-Cookie: a=b" "players\r\n" =
        [ ⟨"x-total-count", "3"⟩,
          ⟨"link",
            "</api/Set-Cookie: a=b?page=1&size=0>; rel=\"prev\"," ++
              "</api/Set-Cookie: a=b?page=0&size=0>; rel=\"last\"," ++
              "</api/Set-Cookie: a=b?page=0&size=0>; rel=\"first\""⟩,
          ⟨"content-range", "players 0-0/3"⟩ ] := by
  have admitsClean (value : String) (isClean : Header.IsClean value) :
      Header.isEncodable value = true :=
    Header.isEncodable_of_isClean isClean
  obtain ⟨names, -, written, -, -⟩ :=
    Page.headers_printable admitsClean Club.unsizedPage
      "/api/é\r\nSet-Cookie: a=b" "players\r\n"
  refine ⟨admitsClean, names, ?_⟩
  rw [written]
  decide

end RecordQuery
