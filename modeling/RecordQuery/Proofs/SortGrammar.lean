import Mathlib.Data.List.Forall2
import Mathlib.Data.List.TakeWhile
import RecordQuery.Sort

namespace RecordQuery

/-!
# The grammar of sort entries

A sort entry is a property, or a property, a comma and a direction.  The first
comma ends the property, blanks around either part do not count, and a direction
is a word in any mixture of small and capital letters.  `SortOrder.Reads` is the
grammar, with the two ways in which an entry can miss it; reading follows it
(`SortOrder.read_eq_iff`).  What is read can be written: the property and the
direction of an order, joined by a comma, are read as that order again.
-/

namespace Text

section

variable {character letter : Char}

theorem isLower_iff :
    character.isLower = true ↔
      97 ≤ character.toNat ∧ character.toNat ≤ 122 := by
  delta Char.isLower
  simp [UInt32.le_iff_toNat_le]

theorem toNat_toLower :
    character.toLower.toNat =
      if 65 ≤ character.toNat ∧ character.toNat ≤ 90 then
        character.toNat + 32
      else
        character.toNat := by
  delta Char.toLower
  simp only [UInt32.le_iff_toNat_le, ge_iff_le, ↓Char.isValue,
    Char.reduceVal, UInt32.reduceToNat, Char.toNat_val, UInt32.reduceSub]
  split
  next isCapital =>
    simp only [Char.toNat_mk, UInt32.toNat_add, Char.toNat_val,
      UInt32.reduceToNat, Nat.reducePow]
    omega
  next =>
    rfl

theorem toNat_toUpper :
    character.toUpper.toNat =
      if 97 ≤ character.toNat ∧ character.toNat ≤ 122 then
        character.toNat - 32
      else
        character.toNat := by
  delta Char.toUpper
  simp only [UInt32.le_iff_toNat_le, ↓Char.isValue, Char.reduceVal,
    UInt32.reduceToNat, Char.toNat_val, UInt32.reduceSub]
  split
  next isSmall =>
    simp only [Char.toNat_mk, UInt32.toNat_add, Char.toNat_val,
      UInt32.reduceToNat, Nat.reducePow]
    omega
  next =>
    rfl

/-- A small letter is made of itself and of its capital. -/
theorem toLower_eq_iff (small : letter.isLower = true) :
    character.toLower = letter ↔
      character = letter ∨ character = letter.toUpper := by
  rw [isLower_iff] at small
  simp only [← Char.toNat_inj, toNat_toLower, toNat_toUpper, if_pos small]
  split <;> omega

end

/-- A text in which each letter of a word stands small or as a capital. -/
def Spells (word text : String) : Prop :=
  List.Forall₂
    (fun letter character =>
      character = letter ∨ character = letter.toUpper)
    word.toList text.toList

/-- A text spells a word of small letters exactly when it folds to the word. -/
theorem lowerAscii_eq_iff_spells
    {word text : String}
    (small : ∀ letter ∈ word.toList, letter.isLower = true) :
    lowerAscii text = word ↔ Spells word text := by
  have folded (letters characters : List Char)
      (small : ∀ letter ∈ letters, letter.isLower = true) :
      characters.map Char.toLower = letters ↔
        List.Forall₂
          (fun letter character =>
            character = letter ∨ character = letter.toUpper)
          letters characters := by
    induction letters generalizing characters with
    | nil =>
        simp
    | cons letter rest inductionHypothesis =>
        rw [List.forall_mem_cons] at small
        cases characters with
        | nil =>
            simp
        | cons character others =>
            rw [List.map_cons, List.cons.injEq, toLower_eq_iff small.1,
              inductionHypothesis others small.2, List.forall₂_cons]
  rw [Spells, ← folded word.toList text.toList small, lowerAscii,
    ← String.toList_inj, String.toList_ofList]

theorem trim_sublist (text : String) :
    (trim text).toList.Sublist text.toList := by
  rw [trim, String.toList_ofList, trimChars]
  have isStart := trimEnd_prefix (text.toList.dropWhile isBlank)
  exact isStart.sublist.trans (List.dropWhile_sublist _)

/-- A text is cut at its first separator: before it none occurs. -/
theorem cut?_eq_takeWhile (separator : Char) (characters : List Char) :
    cut? separator characters =
      match characters.dropWhile (· ≠ separator) with
      | [] => none
      | _ :: rest => some (characters.takeWhile (· ≠ separator), rest) := by
  induction characters with
  | nil =>
      rfl
  | cons character rest inductionHypothesis =>
      by_cases same : character = separator
      · simp [cut?, same]
      · simp only [cut?, same, ↓reduceIte, inductionHypothesis, ne_eq,
          not_false_eq_true, decide_true, List.dropWhile_cons_of_pos,
          List.takeWhile_cons_of_pos]
        split <;> rfl

end Text

namespace Direction

/-- A text is read as a direction exactly when it spells its word. -/
theorem read?_eq_some_iff {raw : String} {direction : Direction} :
    read? raw = some direction ↔
      Text.Spells direction.name (Text.trim raw) := by
  have small (direction : Direction) :
      ∀ letter ∈ direction.name.toList, letter.isLower = true := by
    rw [← List.all_eq_true]
    cases direction <;> rfl
  rw [← Text.lowerAscii_eq_iff_spells (small direction)]
  unfold read?
  dsimp only
  split
  next isAscending =>
    rw [isAscending]
    cases direction <;> simp [name]
  next notAscending =>
    split
    next isDescending =>
      rw [isDescending]
      cases direction <;> simp [name]
    next notDescending =>
      cases direction <;> simp [name, notAscending, notDescending]

theorem read?_name (direction : Direction) :
    read? direction.name = some direction := by
  cases direction <;> decide

end Direction

namespace SortOrder

/-- What a sort entry says of its property: all before the first comma. -/
def propertyText (raw : String) : String :=
  String.ofList (raw.toList.takeWhile (· ≠ ','))

/-- What it says of its direction: all after the first comma, if it has one. -/
def directionText? (raw : String) : Option String :=
  match raw.toList.dropWhile (· ≠ ',') with
  | [] => none
  | _ :: rest => some (String.ofList rest)

/-- The direction that a sort entry asks for; without one it is the default. -/
def Directs (raw : String) (default direction : Direction) : Prop :=
  match directionText? raw with
  | none => direction = default
  | some text => Text.Spells direction.name (Text.trim text)

/-- What a sort entry is read as, under a default direction. -/
inductive Reads (raw : String) (default : Direction) :
    Except QueryError SortOrder → Prop where
  | order
      {direction : Direction}
      (directs : Directs raw default direction)
      (hasProperty : Text.trim (propertyText raw) ≠ "") :
      Reads raw default
        (.ok ⟨Text.trim (propertyText raw), direction⟩)
  /-- A direction that is none, whatever stands before it. -/
  | unknownDirection
      {text : String}
      (isText : directionText? raw = some text)
      (unknown :
        ∀ direction : Direction,
          ¬Text.Spells direction.name (Text.trim text)) :
      Reads raw default (refuse (.unknownDirection text))
  /-- A direction, or none to be read, but no property. -/
  | missingProperty
      {direction : Direction}
      (directs : Directs raw default direction)
      (noProperty : Text.trim (propertyText raw) = "") :
      Reads raw default (refuse .missingProperty)

section

variable {raw : String}

theorem propertyText_of_no_comma (noComma : ',' ∉ raw.toList) :
    propertyText raw = raw := by
  have all : raw.toList.takeWhile (· ≠ ',') = raw.toList := by
    rw [List.takeWhile_eq_self_iff]
    intro character member
    exact decide_eq_true fun isComma => noComma (isComma ▸ member)
  rw [propertyText, all, String.ofList_toList]

theorem comma_not_mem_propertyText : ',' ∉ (propertyText raw).toList := by
  rw [propertyText, String.toList_ofList]
  intro member
  have notComma := List.mem_takeWhile_imp member
  exact absurd rfl (of_decide_eq_true notComma)

/-- The two parts of a sort entry are those that it is cut into. -/
theorem cutAt?_eq (raw : String) :
    Text.cutAt? ',' raw =
      (directionText? raw).map fun text => (propertyText raw, text) := by
  rw [Text.cutAt?, Text.cut?_eq_takeWhile, directionText?, propertyText]
  split <;> rfl

theorem propertyText_of_directionText?_eq_none
    (noDirection : directionText? raw = none) :
    propertyText raw = raw := by
  apply propertyText_of_no_comma
  have notCut := cutAt?_eq raw
  rw [noDirection, Text.cutAt?, Option.map_none, Option.map_eq_none_iff,
    Text.cut?_eq_none_iff] at notCut
  exact notCut

variable {default direction : Direction}

/-- A known direction, or none at all, leaves the property to be looked at. -/
theorem read_of_directs (directs : Directs raw default direction) :
    read raw default = ofProperty (propertyText raw) direction := by
  unfold Directs at directs
  rw [read, cutAt?_eq]
  cases isText : directionText? raw with
  | none =>
      rw [isText] at directs
      dsimp only at directs ⊢
      rw [propertyText_of_directionText?_eq_none isText, directs]
      rfl
  | some text =>
      rw [isText] at directs
      dsimp only at directs ⊢
      rw [Option.map_some]
      dsimp only
      rw [Direction.read?_eq_some_iff.mpr directs]

/-- An unknown direction is told first. -/
theorem read_of_unknownDirection
    {text : String}
    (isText : directionText? raw = some text)
    (unknown :
      ∀ direction : Direction,
        ¬Text.Spells direction.name (Text.trim text)) :
    read raw default = refuse (.unknownDirection text) := by
  have notRead : Direction.read? text = none := by
    rw [Option.eq_none_iff_forall_ne_some]
    intro direction isRead
    exact unknown direction (Direction.read?_eq_some_iff.mp isRead)
  rw [read, cutAt?_eq, isText, Option.map_some]
  dsimp only
  rw [notRead]

theorem ofProperty_of_hasProperty
    {property : String}
    (hasProperty : Text.trim property ≠ "") :
    ofProperty property direction =
      .ok ⟨Text.trim property, direction⟩ := by
  rw [ofProperty, if_neg]
  simpa using hasProperty

theorem ofProperty_of_noProperty
    {property : String}
    (noProperty : Text.trim property = "") :
    ofProperty property direction = refuse .missingProperty := by
  rw [ofProperty, noProperty]
  rfl

theorem exists_directs_or_unknown (raw : String) (default : Direction) :
    (∃ direction, Directs raw default direction) ∨
      ∃ text, directionText? raw = some text ∧
        ∀ direction : Direction,
          ¬Text.Spells direction.name (Text.trim text) := by
  cases isText : directionText? raw with
  | none =>
      left
      refine ⟨default, ?_⟩
      rw [Directs, isText]
  | some text =>
      by_cases known :
          ∃ direction : Direction,
            Text.Spells direction.name (Text.trim text)
      · left
        obtain ⟨direction, spells⟩ := known
        refine ⟨direction, ?_⟩
        rw [Directs, isText]
        exact spells
      · right
        exact ⟨text, rfl, not_exists.mp known⟩

theorem reads_read (raw : String) (default : Direction) :
    Reads raw default (read raw default) := by
  rcases exists_directs_or_unknown raw default with
    ⟨direction, directs⟩ | ⟨text, isText, unknown⟩
  · rw [read_of_directs directs]
    by_cases noProperty : Text.trim (propertyText raw) = ""
    · rw [ofProperty_of_noProperty noProperty]
      exact .missingProperty directs noProperty
    · rw [ofProperty_of_hasProperty noProperty]
      exact .order directs noProperty
  · rw [read_of_unknownDirection isText unknown]
    exact .unknownDirection isText unknown

/-- Reading a sort entry follows the grammar, for orders and for errors. -/
theorem read_eq_iff {outcome : Except QueryError SortOrder} :
    read raw default = outcome ↔ Reads raw default outcome := by
  constructor
  · rintro rfl
    exact reads_read raw default
  · intro reads
    cases reads with
    | order directs hasProperty =>
        rw [read_of_directs directs, ofProperty_of_hasProperty hasProperty]
    | unknownDirection isText unknown =>
        exact read_of_unknownDirection isText unknown
    | missingProperty directs noProperty =>
        rw [read_of_directs directs, ofProperty_of_noProperty noProperty]

theorem read_eq_ok_iff {order : SortOrder} :
    read raw default = .ok order ↔
      Directs raw default order.direction ∧
        order.property ≠ "" ∧
          order.property = Text.trim (propertyText raw) := by
  constructor
  · intro isRead
    have reads := reads_read raw default
    generalize outcome : read raw default = result at reads
    rw [isRead] at outcome
    cases reads with
    | order directs hasProperty =>
        obtain rfl := Except.ok.inj outcome
        exact ⟨directs, hasProperty, rfl⟩
    | unknownDirection => exact absurd outcome (by simp [refuse])
    | missingProperty => exact absurd outcome (by simp [refuse])
  · rintro ⟨directs, hasProperty, isProperty⟩
    rw [isProperty] at hasProperty
    rw [read_of_directs directs, ofProperty_of_hasProperty hasProperty,
      ← isProperty]

end

/-- A property as it is read: it is there, has no comma, and is trimmed. -/
structure IsPlain (property : String) : Prop where
  notEmpty : property ≠ ""
  noComma : ',' ∉ property.toList
  trimmed : Text.trim property = property

/-- A sort order as a sort entry writes it. -/
def text (order : SortOrder) : String :=
  order.property ++ "," ++ order.direction.name

section

variable {property : String}

/-- A property without a comma ends where a comma is put after it. -/
theorem parts_append_comma
    (noComma : ',' ∉ property.toList)
    (directionText : String) :
    propertyText (property ++ "," ++ directionText) = property ∧
      directionText? (property ++ "," ++ directionText) =
        some directionText := by
  have notComma :
      ∀ character ∈ property.toList, decide (character ≠ ',') = true := by
    intro character member
    exact decide_eq_true fun isComma => noComma (isComma ▸ member)
  have characters :
      (property ++ "," ++ directionText).toList =
        property.toList ++ ',' :: directionText.toList := by
    simp
  constructor
  · rw [propertyText, characters, List.takeWhile_append_of_pos notComma,
      List.takeWhile_cons_of_neg (by simp), List.append_nil,
      String.ofList_toList]
  · rw [directionText?, characters, List.dropWhile_append_of_pos notComma,
      List.dropWhile_cons_of_neg (by simp)]
    dsimp only
    rw [String.ofList_toList]

theorem directionText?_of_no_comma (noComma : ',' ∉ property.toList) :
    directionText? property = none := by
  have notCut := cutAt?_eq property
  rw [Text.cutAt?, Text.cut?_eq_none_iff.mpr noComma, Option.map_none]
    at notCut
  exact Option.map_eq_none_iff.mp notCut.symm

/-- What is read has a plain property. -/
theorem isPlain_of_read
    {raw : String}
    {default : Direction}
    {order : SortOrder}
    (isRead : read raw default = .ok order) :
    IsPlain order.property := by
  obtain ⟨-, notEmpty, isProperty⟩ := read_eq_ok_iff.mp isRead
  refine ⟨notEmpty, ?_, ?_⟩
  · rw [isProperty]
    intro member
    exact comma_not_mem_propertyText ((Text.trim_sublist _).subset member)
  · rw [isProperty, Text.trim_trim]

namespace IsPlain

variable {order : SortOrder}
variable (plain : IsPlain order.property)

include plain

theorem ofProperty_eq (direction : Direction) :
    ofProperty order.property direction =
      .ok ⟨order.property, direction⟩ := by
  have hasProperty : Text.trim order.property ≠ "" := by
    rw [plain.trimmed]
    exact plain.notEmpty
  rw [ofProperty_of_hasProperty hasProperty, plain.trimmed]

/-- A written order is read as itself, whatever the default direction is. -/
theorem read_text (default : Direction) :
    read order.text default = .ok order := by
  obtain ⟨isProperty, isText⟩ :=
    parts_append_comma plain.noComma order.direction.name
  have directs : Directs order.text default order.direction := by
    rw [Directs, text, isText]
    exact Direction.read?_eq_some_iff.mp order.direction.read?_name
  rw [read_of_directs directs, text, isProperty, plain.ofProperty_eq]

/-- A property alone takes the default direction. -/
theorem read_property :
    read order.property order.direction = .ok order := by
  have directs :
      Directs order.property order.direction order.direction := by
    rw [Directs, directionText?_of_no_comma plain.noComma]
  rw [read_of_directs directs, propertyText_of_no_comma plain.noComma,
    plain.ofProperty_eq]

end IsPlain

end

/--
A sort entry is read exactly when it has a property and, after a comma, a
direction.

What it is read as follows the grammar, in which an unknown direction comes
before a missing property.  The orders that are read have plain properties, and
are read again from what they are written as.
-/
theorem read_follows_grammar (raw : String) (default : Direction) :
    ((∃ order, read raw default = .ok order) ↔
      Text.trim (propertyText raw) ≠ "" ∧
        ∀ text, directionText? raw = some text →
          ∃ direction : Direction,
            Text.Spells direction.name (Text.trim text)) ∧
    (∀ outcome,
      read raw default = outcome ↔ Reads raw default outcome) ∧
    ∀ order, read raw default = .ok order →
      IsPlain order.property ∧
        (∀ other, read order.text other = .ok order) ∧
        read order.property order.direction = .ok order := by
  refine ⟨⟨?_, ?_⟩, fun outcome => read_eq_iff, ?_⟩
  · rintro ⟨order, isRead⟩
    obtain ⟨directs, notEmpty, isProperty⟩ := read_eq_ok_iff.mp isRead
    refine ⟨isProperty ▸ notEmpty, ?_⟩
    intro text isText
    rw [Directs, isText] at directs
    exact ⟨_, directs⟩
  · rintro ⟨hasProperty, known⟩
    rcases exists_directs_or_unknown raw default with
      ⟨direction, directs⟩ | ⟨text, isText, unknown⟩
    · exact ⟨_, read_eq_iff.mpr (.order directs hasProperty)⟩
    · obtain ⟨direction, spells⟩ := known text isText
      exact absurd spells (unknown direction)
  · intro order isRead
    have plain := isPlain_of_read isRead
    exact ⟨plain, plain.read_text, plain.read_property⟩

example :
    read " id , DESC " .ascending = .ok ⟨"id", .descending⟩ := by rfl

example :
    read " , up,desc" .ascending = refuse (.unknownDirection " up,desc") := by
  rfl

end SortOrder

end RecordQuery
