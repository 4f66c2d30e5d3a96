namespace RecordQuery

/-!
# Maps from names, in the order of the names

A `NameMap` lists each of its names once, in ascending order.  Texts are
ordered by code points, which is also the order of their UTF-8 bytes.  The order
is part of the type, so two maps with the same contents are equal, and whatever
goes through a map goes through it in the same order.
-/

/-- A map from names to values, listed in ascending order of the names. -/
structure NameMap (Entry : Type) where
  entries : List (String × Entry)
  ascending : entries.Pairwise fun left right => left.1 < right.1

namespace NameMap

variable {Entry : Type}

/-- The map without names. -/
def empty : NameMap Entry where
  entries := []
  ascending := List.Pairwise.nil

instance : Inhabited (NameMap Entry) := ⟨empty⟩

/-- The value of a name in a list of entries. -/
def lookup (name : String) : List (String × Entry) → Option Entry
  | [] => none
  | entry :: rest =>
      if entry.1 = name then some entry.2 else lookup name rest

/-- The value of a name. -/
def get? (map : NameMap Entry) (name : String) : Option Entry :=
  lookup name map.entries

/-- A list of ascending entries with the value of one name replaced or added. -/
def insertEntry (name : String) (value : Entry) :
    List (String × Entry) → List (String × Entry)
  | [] => [(name, value)]
  | entry :: rest =>
      if name < entry.1 then
        (name, value) :: entry :: rest
      else if name = entry.1 then
        (name, value) :: rest
      else
        entry :: insertEntry name value rest

/-- An inserted entry is the new one or an old one. -/
theorem mem_insertEntry
    {name : String}
    {value : Entry}
    {entries : List (String × Entry)}
    {entry : String × Entry}
    (member : entry ∈ insertEntry name value entries) :
    entry = (name, value) ∨ entry ∈ entries := by
  induction entries with
  | nil =>
      simpa [insertEntry] using member
  | cons first rest inductionHypothesis =>
      simp only [insertEntry] at member
      split at member
      · simpa using member
      · split at member
        · rcases List.mem_cons.mp member with isNew | inRest
          · exact Or.inl isNew
          · exact Or.inr (List.mem_cons_of_mem first inRest)
        · rcases List.mem_cons.mp member with isFirst | inRest
          · exact Or.inr (isFirst ▸ List.mem_cons_self)
          · rcases inductionHypothesis inRest with isNew | isOld
            · exact Or.inl isNew
            · exact Or.inr (List.mem_cons_of_mem first isOld)

/-- Inserting keeps entries ascending. -/
theorem pairwise_insertEntry
    (name : String)
    (value : Entry)
    {entries : List (String × Entry)}
    (ascending : entries.Pairwise fun left right => left.1 < right.1) :
    (insertEntry name value entries).Pairwise
      fun left right => left.1 < right.1 := by
  induction entries with
  | nil =>
      simp [insertEntry]
  | cons first rest inductionHypothesis =>
      have parts := List.pairwise_cons.mp ascending
      simp only [insertEntry]
      split
      next before =>
        refine List.pairwise_cons.mpr ⟨?_, ascending⟩
        intro entry member
        rcases List.mem_cons.mp member with rfl | inRest
        · exact before
        · exact String.lt_trans before (parts.1 entry inRest)
      next notBefore =>
        split
        next same =>
          subst same
          exact List.pairwise_cons.mpr ⟨parts.1, parts.2⟩
        next different =>
          have after : first.1 < name :=
            Std.lt_of_le_of_ne (String.not_lt.mp notBefore)
              (Ne.symm different)
          refine List.pairwise_cons.mpr
            ⟨?_, inductionHypothesis parts.2⟩
          intro entry member
          rcases mem_insertEntry member with rfl | isOld
          · exact after
          · exact parts.1 entry isOld

/-- The map with the value of one name replaced or added. -/
def insert (map : NameMap Entry) (name : String) (value : Entry) :
    NameMap Entry where
  entries := insertEntry name value map.entries
  ascending := pairwise_insertEntry name value map.ascending

/-- The map without one name. -/
def erase (map : NameMap Entry) (name : String) : NameMap Entry where
  entries := map.entries.filter fun entry => entry.1 ≠ name
  ascending := map.ascending.filter _

/-- Looking up finds an inserted value, and every other value as before. -/
theorem lookup_insertEntry
    (name other : String)
    (value : Entry)
    (entries : List (String × Entry)) :
    lookup other (insertEntry name value entries) =
      if name = other then some value else lookup other entries := by
  induction entries with
  | nil =>
      simp [insertEntry, lookup]
  | cons first rest inductionHypothesis =>
      simp only [insertEntry]
      split
      · simp [lookup]
      · split
        next same =>
          subst same
          by_cases here : first.1 = other <;> simp [lookup, here]
        next different =>
          simp only [lookup, inductionHypothesis]
          by_cases here : first.1 = other
          · have apart : name ≠ other := fun equal =>
              different (equal.trans here.symm)
            simp [here, apart]
          · simp [here]

/-- Looking up after an insertion. -/
@[simp] theorem get?_insert
    (map : NameMap Entry)
    (name other : String)
    (value : Entry) :
    (map.insert name value).get? other =
      if name = other then some value else map.get? other :=
  lookup_insertEntry name other value map.entries

/-- Looking up in the empty map. -/
@[simp] theorem get?_empty (name : String) :
    (empty : NameMap Entry).get? name = none := rfl

/-- Looking up in filtered entries. -/
theorem lookup_filter_ne
    (name other : String)
    (entries : List (String × Entry)) :
    lookup other (entries.filter fun entry => entry.1 ≠ name) =
      if name = other then none else lookup other entries := by
  induction entries with
  | nil =>
      simp [lookup]
  | cons first rest inductionHypothesis =>
      by_cases erased : first.1 = name
      · simp only [ne_eq, erased, not_true_eq_false, decide_false,
          Bool.false_eq_true, not_false_eq_true, List.filter_cons_of_neg,
          inductionHypothesis, lookup]
        by_cases here : name = other <;> simp [here]
      · simp only [ne_eq, erased, not_false_eq_true, decide_true,
          List.filter_cons_of_pos, lookup, inductionHypothesis]
        by_cases here : first.1 = other
        · have apart : name ≠ other := fun equal =>
            erased (here.trans equal.symm)
          simp [here, apart]
        · simp [here]

/-- Looking up after a removal. -/
@[simp] theorem get?_erase
    (map : NameMap Entry)
    (name other : String) :
    (map.erase name).get? other =
      if name = other then none else map.get? other :=
  lookup_filter_ne name other map.entries

end NameMap

end RecordQuery
