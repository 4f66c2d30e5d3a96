namespace RecordQuery.Text

/-!
# Blank characters and trimming

The blank characters are those with the Unicode property White_Space.  Core's
`Char.isWhitespace` knows only six of the twenty-five, so the property is kept
here as a table.  `trim` removes blanks from both ends of a text and leaves the
inside alone; a trimmed text neither starts nor ends with a blank, so that
trimming it again changes nothing (`trim_trim`).
-/

/-- Ranges of code points with the property White_Space, lowest first. -/
def blankRanges : List (Nat × Nat) :=
  [ (0x0009, 0x000D),
    (0x0020, 0x0020),
    (0x0085, 0x0085),
    (0x00A0, 0x00A0),
    (0x1680, 0x1680),
    (0x2000, 0x200A),
    (0x2028, 0x2029),
    (0x202F, 0x202F),
    (0x205F, 0x205F),
    (0x3000, 0x3000) ]

/-- Whether a character has the property White_Space. -/
def isBlank (character : Char) : Bool :=
  blankRanges.any fun range =>
    range.1 ≤ character.toNat && character.toNat ≤ range.2

/-- A list of characters without the blanks at its end. -/
def trimEnd (characters : List Char) : List Char :=
  (characters.reverse.dropWhile isBlank).reverse

/-- A list of characters without the blanks at either end. -/
def trimChars (characters : List Char) : List Char :=
  trimEnd (characters.dropWhile isBlank)

/-- A text without the blanks at either end. -/
def trim (text : String) : String :=
  String.ofList (trimChars text.toList)

/-- Characters none of which is blank. -/
def IsSolid (characters : List Char) : Prop :=
  ∀ character ∈ characters, isBlank character = false

/-- A text with its ASCII capitals made small; every other character stays. -/
def lowerAscii (text : String) : String :=
  String.ofList (text.toList.map Char.toLower)

@[simp] theorem trimChars_nil : trimChars [] = [] := rfl

@[simp] theorem isSolid_nil : IsSolid [] := by
  simp [IsSolid]

@[simp] theorem isSolid_cons {character : Char} {rest : List Char} :
    IsSolid (character :: rest) ↔
      isBlank character = false ∧ IsSolid rest :=
  List.forall_mem_cons

@[simp] theorem isSolid_append {left right : List Char} :
    IsSolid (left ++ right) ↔ IsSolid left ∧ IsSolid right :=
  List.forall_mem_append

/-- A list without blanks at its start starts with no blank. -/
theorem isBlank_head_dropWhile
    {characters : List Char}
    {character : Char}
    (starts : (characters.dropWhile isBlank).head? = some character) :
    isBlank character = false := by
  have notBlank := List.head?_dropWhile_not isBlank characters
  rw [starts] at notBlank
  exact notBlank

theorem trimEnd_prefix (characters : List Char) :
    trimEnd characters <+: characters := by
  rw [← List.reverse_suffix, trimEnd, List.reverse_reverse]
  exact List.dropWhile_suffix isBlank

theorem dropWhile_isBlank_eq_self
    {characters : List Char}
    (startsSolid :
      ∀ character, characters.head? = some character →
        isBlank character = false) :
    characters.dropWhile isBlank = characters := by
  cases characters with
  | nil =>
      rfl
  | cons character rest =>
      exact List.dropWhile_cons_of_neg (by simp [startsSolid character rfl])

/-- Trimming leaves a list that neither starts nor ends with a blank. -/
theorem trimChars_eq_self
    {characters : List Char}
    (startsSolid :
      ∀ character, characters.head? = some character →
        isBlank character = false)
    (endsSolid :
      ∀ character, characters.getLast? = some character →
        isBlank character = false) :
    trimChars characters = characters := by
  rw [trimChars, dropWhile_isBlank_eq_self startsSolid, trimEnd,
    dropWhile_isBlank_eq_self (by simpa using endsSolid),
    List.reverse_reverse]

theorem trimChars_trimChars (characters : List Char) :
    trimChars (trimChars characters) = trimChars characters := by
  apply trimChars_eq_self
  · intro character starts
    obtain ⟨rest, sameStart⟩ := trimEnd_prefix (characters.dropWhile isBlank)
    apply @isBlank_head_dropWhile characters
    rw [← sameStart, List.head?_append, ← trimChars, starts]
    rfl
  · intro character ends
    rw [trimChars, trimEnd, List.getLast?_reverse] at ends
    exact isBlank_head_dropWhile ends

@[simp] theorem trim_trim (text : String) : trim (trim text) = trim text := by
  simp [trim, trimChars_trimChars]

/-- A text without any blank stays as it is when it is trimmed. -/
theorem trim_eq_self_of_isSolid
    {text : String}
    (solid : IsSolid text.toList) :
    trim text = text := by
  have sameCharacters : trimChars text.toList = text.toList :=
    trimChars_eq_self
      (fun character starts =>
        solid character (List.mem_of_mem_head? starts))
      (fun character ends =>
        solid character (List.mem_of_mem_getLast? ends))
  rw [trim, sameCharacters, String.ofList_toList]

end RecordQuery.Text
