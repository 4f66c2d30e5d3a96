namespace RecordQuery.Text

/-!
# Cutting and joining texts

`cut?` parts a text at the first occurrence of a separator, `pieces` at every
occurrence, and `join` puts pieces together again.  Cutting loses nothing:
`cut?_eq_some` reads a text back from its two parts, and `joinChars_pieces` from
all its pieces.  Joining keeps the cuts that the texts already had: the pieces of
joined texts are the pieces of each (`piecesOf_join`).
-/

/-- The characters before the first separator and those after it. -/
def cut? (separator : Char) : List Char → Option (List Char × List Char)
  | [] => none
  | character :: rest =>
      if character = separator then
        some ([], rest)
      else
        (cut? separator rest).map fun parts =>
          (character :: parts.1, parts.2)

/-- The runs of characters between separators; always at least one. -/
def pieces (separator : Char) : List Char → List (List Char)
  | [] => [[]]
  | character :: rest =>
      if character = separator then
        [] :: pieces separator rest
      else
        match pieces separator rest with
        | [] => [[character]]
        | first :: others => (character :: first) :: others

/-- Character lists put together with one separator between neighbours. -/
def joinChars (separator : Char) : List (List Char) → List Char
  | [] => []
  | [last] => last
  | first :: second :: others =>
      first ++ separator :: joinChars separator (second :: others)

/-- Texts put together with `separator` between neighbours. -/
def join (separator : String) : List String → String
  | [] => ""
  | [last] => last
  | first :: second :: others =>
      first ++ separator ++ join separator (second :: others)

/-- The text before the first separator and the text after it. -/
def cutAt? (separator : Char) (text : String) : Option (String × String) :=
  (cut? separator text.toList).map fun parts =>
    (String.ofList parts.1, String.ofList parts.2)

/-- The texts between the separators of a text. -/
def piecesOf (separator : Char) (text : String) : List String :=
  (pieces separator text.toList).map String.ofList

/-- A cut text is its first part, the separator and its second part. -/
theorem cut?_eq_some
    {separator : Char}
    {characters before after : List Char}
    (cutHere : cut? separator characters = some (before, after)) :
    characters = before ++ separator :: after ∧ separator ∉ before := by
  induction characters generalizing before with
  | nil =>
      simp [cut?] at cutHere
  | cons character rest inductionHypothesis =>
      by_cases same : character = separator
      · simp only [cut?, same, ↓reduceIte, Option.some.injEq,
          Prod.mk.injEq] at cutHere
        obtain ⟨rfl, rfl⟩ := cutHere
        simp [same]
      · simp only [cut?, same, ↓reduceIte,
          Option.map_eq_some_iff] at cutHere
        obtain ⟨parts, cutRest, sameParts⟩ := cutHere
        simp only [Prod.mk.injEq] at sameParts
        obtain ⟨rfl, rfl⟩ := sameParts
        have restParts := inductionHypothesis cutRest
        refine ⟨by simp [← restParts.1], ?_⟩
        simp only [List.mem_cons, not_or]
        exact ⟨fun equal => same equal.symm, restParts.2⟩

/-- A text cannot be cut exactly when the separator does not occur in it. -/
theorem cut?_eq_none_iff
    {separator : Char}
    {characters : List Char} :
    cut? separator characters = none ↔ separator ∉ characters := by
  induction characters with
  | nil =>
      simp [cut?]
  | cons character rest inductionHypothesis =>
      by_cases same : character = separator
      · simp [cut?, same]
      · have flipped : separator ≠ character := fun equal =>
          same equal.symm
        simp [cut?, same, flipped, inductionHypothesis]

/-- There is always a first piece. -/
theorem pieces_ne_nil (separator : Char) (characters : List Char) :
    pieces separator characters ≠ [] := by
  cases characters with
  | nil =>
      simp [pieces]
  | cons character rest =>
      by_cases same : character = separator
      · simp [pieces, same]
      · simp only [pieces, same, ↓reduceIte]
        cases pieces separator rest <;> simp

/-- Joining the pieces of a text gives the text. -/
theorem joinChars_pieces (separator : Char) (characters : List Char) :
    joinChars separator (pieces separator characters) = characters := by
  induction characters with
  | nil =>
      rfl
  | cons character rest inductionHypothesis =>
      have notEmpty := pieces_ne_nil separator rest
      by_cases same : character = separator
      · simp only [pieces, same, ↓reduceIte]
        cases split : pieces separator rest with
        | nil =>
            exact absurd split notEmpty
        | cons first others =>
            rw [split] at inductionHypothesis
            simp [joinChars, inductionHypothesis]
      · simp only [pieces, same, ↓reduceIte]
        cases split : pieces separator rest with
        | nil =>
            exact absurd split notEmpty
        | cons first others =>
            rw [split] at inductionHypothesis
            cases others with
            | nil =>
                simpa [joinChars] using inductionHypothesis
            | cons second more =>
                simpa [joinChars] using inductionHypothesis

/-- Two texts with a separator between them have the pieces of both. -/
theorem pieces_append_separator
    (separator : Char)
    (before after : List Char) :
    pieces separator (before ++ separator :: after) =
      pieces separator before ++ pieces separator after := by
  induction before with
  | nil =>
      simp [pieces]
  | cons character rest inductionHypothesis =>
      by_cases same : character = separator
      · simp [pieces, same, inductionHypothesis]
      · simp only [List.cons_append, pieces, same, ↓reduceIte,
          inductionHypothesis]
        cases split : pieces separator rest with
        | nil =>
            exact absurd split (pieces_ne_nil separator rest)
        | cons first others =>
            rfl

/-- There is one piece more than there are separators. -/
theorem length_pieces (separator : Char) (characters : List Char) :
    (pieces separator characters).length =
      characters.count separator + 1 := by
  induction characters with
  | nil =>
      rfl
  | cons character rest inductionHypothesis =>
      by_cases same : character = separator
      · simp [pieces, same, inductionHypothesis]
      · simp only [pieces, same, ↓reduceIte]
        rw [List.count_cons_of_ne same, ← inductionHypothesis]
        cases split : pieces separator rest with
        | nil =>
            exact absurd split (pieces_ne_nil separator rest)
        | cons first others =>
            rfl

/-- A text is its only piece exactly when it holds no separator. -/
theorem pieces_eq_singleton_iff
    {separator : Char}
    {characters piece : List Char} :
    pieces separator characters = [piece] ↔
      piece = characters ∧ separator ∉ characters := by
  have joined := joinChars_pieces separator characters
  have length := length_pieces separator characters
  constructor
  · intro single
    rw [single] at joined length
    exact ⟨joined, List.count_eq_zero.mp (Nat.succ.inj length).symm⟩
  · rintro ⟨rfl, absent⟩
    rw [List.count_eq_zero.mpr absent] at length
    obtain ⟨only, single⟩ := List.length_eq_one_iff.mp length
    rw [single] at joined
    rw [single, ← joined, joinChars]

theorem length_piecesOf_pos (separator : Char) (text : String) :
    0 < (piecesOf separator text).length := by
  rw [piecesOf, List.length_map]
  exact List.length_pos_iff.mpr (pieces_ne_nil separator text.toList)

theorem piecesOf_append_separator
    (separator : Char)
    (before after : String) :
    piecesOf separator (before ++ separator.toString ++ after) =
      piecesOf separator before ++ piecesOf separator after := by
  simp [piecesOf, pieces_append_separator]

/-- The pieces of joined texts are the pieces of each text in turn. -/
theorem piecesOf_join
    (separator : Char)
    {texts : List String}
    (notEmpty : texts ≠ []) :
    piecesOf separator (join separator.toString texts) =
      texts.flatMap (piecesOf separator) := by
  induction texts with
  | nil =>
      exact absurd rfl notEmpty
  | cons first rest inductionHypothesis =>
      cases rest with
      | nil =>
          simp [join]
      | cons second others =>
          rw [join, piecesOf_append_separator,
            inductionHypothesis (List.cons_ne_nil second others)]
          rfl

theorem piecesOf_eq_singleton_iff
    {separator : Char}
    {text piece : String} :
    piecesOf separator text = [piece] ↔
      piece = text ∧ separator ∉ text.toList := by
  rw [piecesOf, List.map_eq_singleton_iff]
  simp only [pieces_eq_singleton_iff]
  constructor
  · rintro ⟨characters, ⟨rfl, absent⟩, rfl⟩
    exact ⟨String.ofList_toList, absent⟩
  · rintro ⟨rfl, absent⟩
    exact ⟨_, ⟨rfl, absent⟩, String.ofList_toList⟩

end RecordQuery.Text
