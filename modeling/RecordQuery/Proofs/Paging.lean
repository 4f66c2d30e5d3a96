import Mathlib.Algebra.Ring.Nat
import Mathlib.Data.List.Basic
import RecordQuery.Proofs.Narrowing

namespace RecordQuery

/-!
# Walking through the pages of a query

Four pieces of arithmetic meet in a walk: the offset of a page, the number of
pages, whether a page has a next one, and how many records its window holds.
They all follow from `Page.lt_countOf_iff`: an index is that of a page exactly
when its offset lies before the end of the records.  The windows of consecutive
pages then follow each other without gap or overlap.
-/

theorem toNat_capped (value : Nat) :
    (capped value).toNat = min value (UInt64.size - 1) := by
  have fits : min value (UInt64.size - 1) < UInt64.size :=
    Nat.lt_of_le_of_lt (Nat.min_le_right _ _) (by decide)
  rw [capped, UInt64.toNat_ofNat']
  exact Nat.mod_eq_of_lt fits

namespace Page

/-- The number of pages of a size that a number of entries fills. -/
def countOf (total size : Nat) : Nat :=
  if total % size = 0 then total / size else total / size + 1

/-- A page is one of those filled exactly when it starts before the end. -/
theorem lt_countOf_iff
    {size : Nat}
    (positive : 0 < size)
    (total index : Nat) :
    index < countOf total size ↔ index * size < total := by
  have parts : total / size * size + total % size = total :=
    Nat.div_add_mod' total size
  have small : total % size < size := Nat.mod_lt total positive
  unfold countOf
  split
  next whole =>
    have exact : total / size * size = total := by
      rw [whole, Nat.add_zero] at parts
      exact parts
    constructor
    · intro before
      rw [← exact]
      exact Nat.mul_lt_mul_of_pos_right before positive
    · intro starts
      rw [← exact] at starts
      exact Nat.lt_of_mul_lt_mul_right starts
  next inexact =>
    constructor
    · intro before
      have notAfter : index * size ≤ total / size * size :=
        Nat.mul_le_mul_right size (Nat.le_of_lt_succ before)
      omega
    · intro starts
      by_contra notBefore
      have after : (total / size + 1) * size ≤ index * size :=
        Nat.mul_le_mul_right size (Nat.le_of_not_lt notBefore)
      rw [Nat.succ_mul] at after
      omega

theorem countOf_le
    {size : Nat}
    (positive : 0 < size)
    (total : Nat) :
    countOf total size ≤ total := by
  by_contra tooMany
  have starts : total * size < total :=
    (lt_countOf_iff positive total total).mp (Nat.lt_of_not_le tooMany)
  exact absurd starts (Nat.not_lt.mpr (Nat.le_mul_of_pos_right total positive))

variable {Entry : Type}
variable {page : Page Entry}

/-- The number of pages is the one that the total fills. -/
theorem toNat_totalPages (sized : 0 < page.size.toNat) :
    page.totalPages.toNat = countOf page.total.toNat page.size.toNat := by
  have notZero : page.size ≠ 0 := by
    rintro zero
    exact absurd sized (by simp [zero])
  have few := countOf_le sized page.total.toNat
  have fits := page.total.toNat_lt
  have remainder :
      page.total % page.size = 0 ↔
        page.total.toNat % page.size.toNat = 0 := by
    rw [← UInt64.toNat_inj, UInt64.toNat_mod]
    rfl
  unfold countOf at few ⊢
  simp only [totalPages, notZero, ↓reduceIte, remainder]
  split
  next whole =>
    exact UInt64.toNat_div _ _
  next inexact =>
    rw [if_neg inexact] at few
    rw [UInt64.toNat_add, UInt64.toNat_div]
    exact Nat.mod_eq_of_lt (Nat.lt_of_le_of_lt few fits)

/-- A page has a next one exactly when the next index is that of a page. -/
theorem hasNext_iff (sized : 0 < page.size.toNat) :
    page.hasNext = true ↔
      page.page.toNat + 1 < countOf page.total.toNat page.size.toNat := by
  have few := countOf_le sized page.total.toNat
  have fits := page.total.toNat_lt
  rw [hasNext, decide_eq_true_iff, UInt64.lt_iff_toNat_lt, nextIndex,
    toNat_capped, toNat_totalPages sized]
  have wide : UInt64.size - 1 = 2 ^ 64 - 1 := rfl
  omega

end Page

/-- Consecutive windows follow each other without gap or overlap. -/
theorem flatMap_windows
    {Entry : Type}
    (entries : List Entry)
    (size count : Nat) :
    ((List.range count).flatMap fun index =>
      (entries.drop (index * size)).take size) =
        entries.take (count * size) := by
  induction count with
  | zero =>
      simp
  | succ count inductionHypothesis =>
      rw [List.range_succ, List.flatMap_append, inductionHypothesis,
        List.flatMap_singleton, Nat.succ_mul, List.take_add]

namespace PageRequest

/-- The greatest offset, and the greatest page size, that a database takes. -/
def greatestOffset : Nat := 2 ^ 63 - 1

/-- A page size with which every page of some records can be asked for. -/
structure SizeFits (size : UInt64) (total : Nat) : Prop where
  positive : 0 < size.toNat
  size_le : size.toNat ≤ greatestOffset
  offset_le :
    ∀ index, index * size.toNat < total →
      index * size.toNat ≤ greatestOffset

variable {size : UInt64}
variable {total : Nat}

theorem sizeFits_of_total_le
    (positive : 0 < size.toNat)
    (size_le : size.toNat ≤ greatestOffset)
    (total_le : total ≤ greatestOffset) :
    SizeFits size total where
  positive := positive
  size_le := size_le
  offset_le := fun _ starts => Nat.le_trans (Nat.le_of_lt starts) total_le

/-- All windows together reach the end of the records. -/
theorem SizeFits.total_le_mul
    (fits : SizeFits size total)
    {count : Nat}
    (enough : Page.countOf total size.toNat ≤ count) :
    total ≤ count * size.toNat := by
  by_contra tooFew
  have before :=
    (Page.lt_countOf_iff fits.positive total count).mpr
      (Nat.lt_of_not_le tooFew)
  exact absurd before (Nat.not_lt.mpr enough)

/-- Records that fit can be counted in 64 bits. -/
theorem SizeFits.total_lt (fits : SizeFits size total) :
    total < UInt64.size := by
  have reached := fits.total_le_mul (Nat.le_refl _)
  cases count : Page.countOf total size.toNat with
  | zero =>
      rw [count, Nat.zero_mul] at reached
      exact Nat.lt_of_le_of_lt reached (by decide)
  | succ last =>
      -- The last window starts within reach and is no longer than the size.
      have lastStarts : last * size.toNat < total := by
        apply (Page.lt_countOf_iff fits.positive total last).mp
        rw [count]
        exact Nat.lt_succ_self last
      have lastFits := fits.offset_le last lastStarts
      have sizeFits := fits.size_le
      rw [count, Nat.succ_mul] at reached
      have bound : greatestOffset + greatestOffset < UInt64.size := by
        decide
      omega

section

variable {index : Nat}
variable (positive : 0 < size.toNat)
variable (offset_le : index * size.toNat ≤ greatestOffset)

include positive offset_le

/-- The index of a page that a database takes is a number of 64 bits. -/
theorem lt_size_of_offset_le : index < UInt64.size :=
  calc index
    _ ≤ index * size.toNat := Nat.le_mul_of_pos_right index positive
    _ ≤ greatestOffset := offset_le
    _ < UInt64.size := by decide

/-- The offset of a page that a database takes is where its window starts. -/
theorem toNat_offset {sort : List SortOrder} :
    (⟨UInt64.ofNat index, size, sort⟩ : PageRequest).offset.toNat =
      index * size.toNat := by
  have wide : greatestOffset < UInt64.size - 1 := by
    decide
  have sameIndex : (UInt64.ofNat index).toNat = index :=
    UInt64.toNat_ofNat_of_lt' (lt_size_of_offset_le positive offset_le)
  rw [offset, toNat_capped, sameIndex]
  exact Nat.min_eq_left (Nat.le_of_lt (Nat.lt_of_le_of_lt offset_le wide))

end

end PageRequest

namespace Database

/-- The page of an index among the pages of a select. -/
def pageAt
    (database : Database)
    (entity : Entity)
    (predicate : Predicate)
    (size : UInt64)
    (sort : List SortOrder)
    (index : Nat) :
    Page Record :=
  (database.findPage entity predicate
    ⟨UInt64.ofNat index, size, sort⟩).result

section

variable (database : Database)
variable (entity : Entity)
variable (predicate : Predicate)
variable (sort : List SortOrder)
variable {size : UInt64}

theorem content_pageAt
    {index : Nat}
    (positive : 0 < size.toNat)
    (offset_le : index * size.toNat ≤ PageRequest.greatestOffset) :
    (database.pageAt entity predicate size sort index).content =
      ((sorted (entity.resolveSort sort).result
        (database.select entity predicate)).drop
          (index * size.toNat)).take size.toNat := by
  rw [← PageRequest.toNat_offset positive offset_le]
  rfl

theorem total_pageAt
    (fits :
      PageRequest.SizeFits size (database.select entity predicate).length)
    (index : Nat) :
    (database.pageAt entity predicate size sort index).total.toNat =
      (database.select entity predicate).length :=
  UInt64.toNat_ofNat_of_lt' fits.total_lt

theorem hasNext_pageAt_iff
    (fits :
      PageRequest.SizeFits size (database.select entity predicate).length)
    {index : Nat}
    (small : index < UInt64.size) :
    (database.pageAt entity predicate size sort index).hasNext = true ↔
      index + 1 <
        Page.countOf (database.select entity predicate).length
          size.toNat := by
  have sameIndex :
      (database.pageAt entity predicate size sort index).page.toNat =
        index :=
    UInt64.toNat_ofNat_of_lt' small
  have sized :
      0 < (database.pageAt entity predicate size sort index).size.toNat :=
    fits.positive
  rw [Page.hasNext_iff sized, sameIndex,
    total_pageAt database entity predicate sort fits]
  rfl

end

end Database

namespace Service

/--
The pages that are visited from an index on: each one answers the request for
its index, and the next index is asked for as long as a page has a next one.
-/
inductive Walk
    (service : Service)
    (criteria : Option Criteria)
    (visibility : Visibility)
    (size : UInt64)
    (sort : List SortOrder) :
    UInt64 → List (Page Record) → Prop where
  | last
      {index : UInt64}
      {page : Page Record}
      (answered :
        (service.findPageFor criteria ⟨index, size, sort⟩
          visibility).result = .ok page)
      (ends : page.hasNext = false) :
      Walk service criteria visibility size sort index [page]
  | next
      {index : UInt64}
      {page : Page Record}
      {later : List (Page Record)}
      (answered :
        (service.findPageFor criteria ⟨index, size, sort⟩
          visibility).result = .ok page)
      (continues : page.hasNext = true)
      (walked :
        Walk service criteria visibility size sort (index + 1) later) :
      Walk service criteria visibility size sort index (page :: later)

section

variable {service : Service}
variable {criteria : Option Criteria}
variable {visibility : Visibility}
variable {size : UInt64}
variable {sort : List SortOrder}

/-- There is only one walk from an index. -/
theorem Walk.unique
    {index : UInt64}
    {pages others : List (Page Record)}
    (walked : service.Walk criteria visibility size sort index pages)
    (again : service.Walk criteria visibility size sort index others) :
    others = pages := by
  induction walked generalizing others with
  | last answered ends =>
      cases again with
      | last sameAnswer _ =>
          cases answered.symm.trans sameAnswer
          rfl
      | next sameAnswer continues _ =>
          cases answered.symm.trans sameAnswer
          exact absurd (ends.symm.trans continues) Bool.false_ne_true
  | next answered continues walked inductionHypothesis =>
      cases again with
      | last sameAnswer ends =>
          cases answered.symm.trans sameAnswer
          exact absurd (ends.symm.trans continues) Bool.false_ne_true
      | next sameAnswer _ walkedAgain =>
          cases answered.symm.trans sameAnswer
          rw [inductionHypothesis walkedAgain]

/-- Pages that are answered one after the other make a walk. -/
theorem walk_of_answers
    {pageAt : Nat → Page Record}
    (answered :
      ∀ index,
        (service.findPageFor criteria ⟨UInt64.ofNat index, size, sort⟩
          visibility).result = .ok (pageAt index))
    (steps index : Nat)
    (continues :
      ∀ step < steps, (pageAt (index + step)).hasNext = true)
    (ends : (pageAt (index + steps)).hasNext = false) :
    service.Walk criteria visibility size sort (UInt64.ofNat index)
      ((List.range' index (steps + 1)).map pageAt) := by
  -- On the number of pages still to come, whatever the index of the first.
  induction steps generalizing index with
  | zero =>
      exact .last (answered index) ends
  | succ steps inductionHypothesis =>
      rw [List.range'_succ, List.map_cons]
      refine .next (answered index) (continues 0 (Nat.zero_lt_succ steps)) ?_
      have shifted (step : Nat) : index + (step + 1) = index + 1 + step := by
        omega
      have sameIndex :
          UInt64.ofNat index + 1 = UInt64.ofNat (index + 1) :=
        (UInt64.ofNat_add index 1).symm
      rw [sameIndex]
      apply inductionHypothesis
      · intro step before
        rw [← shifted]
        exact continues (step + 1) (Nat.succ_lt_succ before)
      · rw [← shifted]
        exact ends

end

end Service

/--
Pages that show some records, all of them and none twice: page `index` holds the
window of its index, and every page knows the number of records and of pages.
-/
structure Page.Show
    (size : UInt64)
    (records : List Record)
    (pages : List (Page Record)) :
    Prop where
  visited :
    ∀ index page, pages[index]? = some page →
      page.page.toNat = index ∧
        page.size = size ∧
        page.total.toNat = records.length ∧
        page.content.length =
          min size.toNat (records.length - index * size.toNat) ∧
        pages.length = max 1 page.totalPages.toNat
  content :
    (pages.flatMap Page.content).Perm records

namespace Database

section

variable (database : Database)
variable (entity : Entity)
variable (predicate : Predicate)
variable (size : UInt64)
variable (sort : List SortOrder)

/-- The number of pages of a select; there is always a first one. -/
def pageCount : Nat :=
  max 1
    (Page.countOf (database.select entity predicate).length size.toNat)

/-- The pages of a select. -/
def pages : List (Page Record) :=
  (List.range (database.pageCount entity predicate size)).map
    (database.pageAt entity predicate size sort)

end

section

variable {database : Database}
variable {entity : Entity}
variable {predicate : Predicate}
variable {size : UInt64}
variable (sort : List SortOrder)
variable (fits :
  PageRequest.SizeFits size (database.select entity predicate).length)

include fits

theorem offset_le_of_lt_pageCount
    {index : Nat}
    (before : index < database.pageCount entity predicate size) :
    index * size.toNat ≤ PageRequest.greatestOffset := by
  have firstOrFilled :
      index = 0 ∨
        index <
          Page.countOf (database.select entity predicate).length
            size.toNat := by
    unfold pageCount at before
    omega
  rcases firstOrFilled with isFirst | isFilled
  · rw [isFirst, Nat.zero_mul]
    exact Nat.zero_le _
  · exact fits.offset_le index
      ((Page.lt_countOf_iff fits.positive _ index).mp isFilled)

/-- The pages of a select together hold its records in their order. -/
theorem flatMap_content_pages :
    (database.pages entity predicate size sort).flatMap Page.content =
      sorted (entity.resolveSort sort).result
        (database.select entity predicate) := by
  have reached :
      (sorted (entity.resolveSort sort).result
          (database.select entity predicate)).length ≤
        database.pageCount entity predicate size * size.toNat := by
    rw [sorted, List.length_mergeSort]
    exact fits.total_le_mul (Nat.le_max_right _ _)
  rw [pages, List.flatMap_map, ← List.take_of_length_le reached,
    ← flatMap_windows]
  apply List.flatMap_congr
  intro index isIndex
  exact content_pageAt database entity predicate sort fits.positive
    (offset_le_of_lt_pageCount fits (List.mem_range.mp isIndex))

theorem show_pages :
    Page.Show size (database.select entity predicate)
      (database.pages entity predicate size sort) where
  visited := by
    intro index page found
    rw [pages, List.getElem?_map, Option.map_eq_some_iff] at found
    obtain ⟨position, isPosition, rfl⟩ := found
    obtain ⟨listed, same⟩ := List.getElem?_eq_some_iff.mp isPosition
    rw [List.getElem_range] at same
    subst same
    rw [List.length_range] at listed
    have offset_le := offset_le_of_lt_pageCount fits listed
    have total := total_pageAt database entity predicate sort fits index
    have small : index < UInt64.size :=
      PageRequest.lt_size_of_offset_le fits.positive offset_le
    refine ⟨UInt64.toNat_ofNat_of_lt' small, rfl, total, ?_, ?_⟩
    · rw [content_pageAt database entity predicate sort fits.positive
        offset_le, List.length_take, List.length_drop, sorted,
        List.length_mergeSort]
    · have sized :
          0 <
            (database.pageAt entity predicate size sort
              index).size.toNat :=
        fits.positive
      rw [Page.toNat_totalPages sized, total, pages, List.length_map,
        List.length_range]
      rfl
  content := by
    rw [flatMap_content_pages sort fits]
    exact List.mergeSort_perm _ _

/-- A page after the last one holds nothing. -/
theorem content_pageAt_of_pageCount_le
    {index : Nat}
    (after : database.pageCount entity predicate size ≤ index)
    (offset_le : index * size.toNat ≤ PageRequest.greatestOffset) :
    (database.pageAt entity predicate size sort index).content = [] := by
  have reached :
      (database.select entity predicate).length ≤ index * size.toNat :=
    fits.total_le_mul (Nat.le_trans (Nat.le_max_right _ _) after)
  rw [content_pageAt database entity predicate sort fits.positive offset_le,
    List.drop_of_length_le, List.take_nil]
  rw [sorted, List.length_mergeSort]
  exact reached

/-- A page has a next one exactly when it is not the last one. -/
theorem hasNext_pageAt
    {index : Nat}
    (listed : index < database.pageCount entity predicate size) :
    (database.pageAt entity predicate size sort index).hasNext =
      decide (index + 1 < database.pageCount entity predicate size) := by
  have small : index < UInt64.size :=
    PageRequest.lt_size_of_offset_le fits.positive
      (offset_le_of_lt_pageCount fits listed)
  rw [Bool.eq_iff_iff, decide_eq_true_iff,
    hasNext_pageAt_iff database entity predicate sort fits small]
  unfold pageCount
  omega

end

end Database

/-- The walk from the first page visits the pages of the select. -/
theorem Service.walk_pages
    {service : Service}
    {criteria : Option Criteria}
    {visibility : Visibility}
    {database : Database}
    {entity : Entity}
    {narrowed : Predicate}
    {size : UInt64}
    {sort : List SortOrder}
    (fits :
      PageRequest.SizeFits size (database.select entity narrowed).length)
    (answered :
      ∀ index,
        (service.findPageFor criteria ⟨UInt64.ofNat index, size, sort⟩
          visibility).result =
            .ok (database.pageAt entity narrowed size sort index)) :
    service.Walk criteria visibility size sort 0
      (database.pages entity narrowed size sort) := by
  have positive : 0 < database.pageCount entity narrowed size :=
    Nat.lt_of_lt_of_le Nat.zero_lt_one (Nat.le_max_left _ _)
  obtain ⟨steps, count⟩ :=
    Nat.exists_eq_succ_of_ne_zero (Nat.ne_of_gt positive)
  have hasNext (index : Nat) (listed : index < steps + 1) :
      (database.pageAt entity narrowed size sort index).hasNext =
        decide (index < steps) := by
    rw [Database.hasNext_pageAt sort fits (count ▸ listed), count]
    simp
  rw [Database.pages, count, List.range_eq_range']
  apply Service.walk_of_answers answered steps 0
  · intro step before
    rw [Nat.zero_add, hasNext step (Nat.lt_succ_of_lt before)]
    exact decide_eq_true before
  · rw [Nat.zero_add, hasNext steps (Nat.lt_succ_self steps)]
    exact decide_eq_false (Nat.lt_irrefl steps)

/-- There is no walk from a page that is refused. -/
theorem Service.not_walk_of_refused
    {service : Service}
    {criteria : Option Criteria}
    {visibility : Visibility}
    {size index : UInt64}
    {sort : List SortOrder}
    {error : QueryError}
    (refused :
      (service.findPageFor criteria ⟨index, size, sort⟩
        visibility).result = .error error) :
    ¬∃ pages,
      service.Walk criteria visibility size sort index pages := by
  rintro ⟨pages, walked⟩
  cases walked with
  | last answered _ =>
      exact absurd (refused.symm.trans answered) (by simp)
  | next answered _ _ =>
      exact absurd (refused.symm.trans answered) (by simp)

end RecordQuery
