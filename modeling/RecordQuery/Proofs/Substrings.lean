import Mathlib.Data.List.Infix
import RecordQuery.Proofs.Meaning

namespace RecordQuery.Sql

/-!
# Literal substring search

One database looks for a text by its position and another by a pattern.  A
pattern has a meaning of its own, given here by `Matches` with no regard to how
patterns are matched, and the pattern that is made of a text means that the text
occurs.  So both databases find the same rows (`searchesLiterally`).
-/

/-- The characters with a meaning of their own in patterns. -/
def IsSpecial (character : Char) : Prop :=
  character = '\\' ∨ character = '%' ∨ character = '_'

instance (character : Char) : Decidable (IsSpecial character) :=
  inferInstanceAs (Decidable (_ ∨ _ ∨ _))

/-- The texts that a pattern stands for. -/
inductive Matches : List Char → List Char → Prop where
  | nothing : Matches [] []
  /-- After an escape any character stands for itself. -/
  | escaped
      (character : Char)
      {pattern text : List Char}
      (rest : Matches pattern text) :
      Matches ('\\' :: character :: pattern) (character :: text)
  | run
      (skipped : List Char)
      {pattern text : List Char}
      (rest : Matches pattern text) :
      Matches ('%' :: pattern) (skipped ++ text)
  | one
      (character : Char)
      {pattern text : List Char}
      (rest : Matches pattern text) :
      Matches ('_' :: pattern) (character :: text)
  | ordinary
      {character : Char}
      (plain : ¬ IsSpecial character)
      {pattern text : List Char}
      (rest : Matches pattern text) :
      Matches (character :: pattern) (character :: text)

/-- Every escape of a pattern is followed by a character that needs one. -/
inductive IsWellFormed : List Char → Prop where
  | nothing : IsWellFormed []
  | escaped
      {character : Char}
      (special : IsSpecial character)
      {pattern : List Char}
      (rest : IsWellFormed pattern) :
      IsWellFormed ('\\' :: character :: pattern)
  | unescaped
      {character : Char}
      (noEscape : character ≠ '\\')
      {pattern : List Char}
      (rest : IsWellFormed pattern) :
      IsWellFormed (character :: pattern)

/-- A text with every occurrence of a character replaced. -/
def replaced (old : Char) (new text : List Char) : List Char :=
  text.flatMap fun character => if character = old then new else [character]

/-- The place of the first occurrence, counted from one; zero if there is none. -/
def position (needle haystack : String) : Nat :=
  match haystack.toList.tails.findIdx? needle.toList.isPrefixOf with
  | some index => index + 1
  | none => 0

namespace Matches

section

variable {pattern text : List Char}

theorem nil_iff : Matches [] text ↔ text = [] := by
  constructor
  · rintro ⟨⟩
    rfl
  · rintro rfl
    exact .nothing

theorem not_escape : ¬ Matches ['\\'] text := by
  intro found
  cases found with
  | ordinary plain _ =>
      exact plain (Or.inl rfl)

theorem escaped_iff (character : Char) :
    Matches ('\\' :: character :: pattern) text ↔
      ∃ rest, text = character :: rest ∧ Matches pattern rest := by
  constructor
  · intro found
    cases found with
    | escaped _ rest =>
        exact ⟨_, rfl, rest⟩
    | ordinary plain _ =>
        exact absurd (Or.inl rfl) plain
  · rintro ⟨rest, rfl, found⟩
    exact .escaped character found

theorem run_iff :
    Matches ('%' :: pattern) text ↔
      ∃ skipped rest, text = skipped ++ rest ∧ Matches pattern rest := by
  constructor
  · intro found
    cases found with
    | run skipped rest =>
        exact ⟨skipped, _, rfl, rest⟩
    | ordinary plain _ =>
        exact absurd (Or.inr (Or.inl rfl)) plain
  · rintro ⟨skipped, rest, rfl, found⟩
    exact .run skipped found

theorem one_iff :
    Matches ('_' :: pattern) text ↔
      ∃ character rest, text = character :: rest ∧ Matches pattern rest := by
  constructor
  · intro found
    cases found with
    | one character rest =>
        exact ⟨character, _, rfl, rest⟩
    | ordinary plain _ =>
        exact absurd (Or.inr (Or.inr rfl)) plain
  · rintro ⟨character, rest, rfl, found⟩
    exact .one character found

theorem ordinary_iff
    {character : Char}
    (plain : ¬ IsSpecial character) :
    Matches (character :: pattern) text ↔
      ∃ rest, text = character :: rest ∧ Matches pattern rest := by
  constructor
  · intro found
    cases found with
    | escaped _ _ => exact absurd (Or.inl rfl) plain
    | run _ _ => exact absurd (Or.inr (Or.inl rfl)) plain
    | one _ _ => exact absurd (Or.inr (Or.inr rfl)) plain
    | ordinary _ rest => exact ⟨_, rfl, rest⟩
  · rintro ⟨rest, rfl, found⟩
    exact .ordinary plain found

end

end Matches

section

variable {items : List PatternItem}
variable {text : List Char}

theorem matchItems_exactly_iff (character : Char) :
    matchItems (.exactly character :: items) text = true ↔
      ∃ rest, text = character :: rest ∧ matchItems items rest = true := by
  cases text with
  | nil =>
      simp [matchItems]
  | cons first rest =>
      rw [matchItems, Bool.and_eq_true, beq_iff_eq]
      constructor
      · rintro ⟨rfl, found⟩
        exact ⟨rest, rfl, found⟩
      · rintro ⟨later, shape, found⟩
        rw [List.cons.injEq] at shape
        exact ⟨shape.1.symm, shape.2 ▸ found⟩

theorem matchItems_one_iff :
    matchItems (.one :: items) text = true ↔
      ∃ character rest,
        text = character :: rest ∧ matchItems items rest = true := by
  cases text <;> simp [matchItems]

theorem matchItems_many_iff :
    matchItems (.many :: items) text = true ↔
      ∃ skipped rest,
        text = skipped ++ rest ∧ matchItems items rest = true := by
  induction text with
  | nil =>
      simp [matchItems]
  | cons first rest inductionHypothesis =>
      rw [matchItems, Bool.or_eq_true, inductionHypothesis]
      constructor
      · rintro (here | ⟨skipped, later, rfl, found⟩)
        · exact ⟨[], _, rfl, here⟩
        · exact ⟨first :: skipped, later, rfl, found⟩
      · rintro ⟨skipped, later, shape, found⟩
        cases skipped with
        | nil =>
            rw [List.nil_append] at shape
            exact Or.inl (shape ▸ found)
        | cons _ skipped =>
            rw [List.cons_append, List.cons.injEq] at shape
            exact Or.inr ⟨skipped, later, shape.2, found⟩

end

/-- The steps of a pattern match the texts that the pattern stands for. -/
theorem matches_iff_matchItems
    (pattern text : List Char) :
    Matches pattern text ↔
      ∃ items,
        patternItems? pattern = some items ∧
          matchItems items text = true := by
  fun_induction patternItems? pattern generalizing text with
  | case1 =>
      cases text <;> simp [Matches.nil_iff, matchItems]
  | case2 =>
      simp [Matches.not_escape]
  | case3 character rest inductionHypothesis =>
      simp only [Matches.escaped_iff, inductionHypothesis,
        Option.map_eq_some_iff, exists_exists_and_eq_and,
        matchItems_exactly_iff]
      cases patternItems? rest <;> simp
  | case4 rest inductionHypothesis =>
      simp only [Matches.run_iff, inductionHypothesis,
        Option.map_eq_some_iff, exists_exists_and_eq_and,
        matchItems_many_iff]
      cases patternItems? rest <;> simp
  | case5 rest inductionHypothesis =>
      simp only [Matches.one_iff, inductionHypothesis,
        Option.map_eq_some_iff, exists_exists_and_eq_and,
        matchItems_one_iff]
      cases patternItems? rest <;> simp
  | case6 character rest notLast notEscape notRun notOne
      inductionHypothesis =>
      -- A special character would have been read by an earlier case.
      have plain : ¬ IsSpecial character := by
        rintro (isEscape | isRun | isOne)
        · cases rest with
          | nil => exact notLast isEscape rfl
          | cons next rest => exact notEscape next rest isEscape rfl
        · exact notRun isRun
        · exact notOne isOne
      simp only [Matches.ordinary_iff plain, inductionHypothesis,
        Option.map_eq_some_iff, exists_exists_and_eq_and,
        matchItems_exactly_iff]
      cases patternItems? rest <;> simp

theorem matchPattern_eq_true_iff (pattern text : String) :
    matchPattern pattern text = true ↔
      Matches pattern.toList text.toList := by
  rw [matches_iff_matchItems, matchPattern]
  cases patternItems? pattern.toList <;> simp

/-! ### The pattern of a text -/

/-- A character as it stands in the pattern of a text. -/
def escaped (character : Char) : List Char :=
  if IsSpecial character then ['\\', character] else [character]

theorem escaped_of_special
    {character : Char}
    (special : IsSpecial character) :
    escaped character = ['\\', character] :=
  if_pos special

theorem escaped_of_plain
    {character : Char}
    (plain : ¬ IsSpecial character) :
    escaped character = [character] :=
  if_neg plain

theorem toList_containsPattern (needle : String) :
    (containsPattern needle).toList =
      '%' :: (needle.toList.flatMap escaped ++ ['%']) := by
  simp only [containsPattern, escapeWildcards, String.toList_append,
    String.toList_ofList]
  rfl

example : containsPattern "50%_off\\" = "%50\\%\\_off\\\\%" := by
  decide

/-- Three replacements in turn escape what one pass over a text escapes. -/
theorem flatMap_escaped (text : List Char) :
    text.flatMap escaped =
      replaced '_' ['\\', '_']
        (replaced '%' ['\\', '%']
          (replaced '\\' ['\\', '\\'] text)) := by
  unfold replaced
  rw [List.flatMap_assoc, List.flatMap_assoc]
  -- The backslashes of the first replacement survive the other two, and those
  -- that the others add come after it.
  congr 1
  funext character
  by_cases special : IsSpecial character
  · rcases special with rfl | rfl | rfl <;> rfl
  · rw [escaped_of_plain special]
    simp only [IsSpecial, not_or] at special
    simp [special]

section

variable {pattern : List Char}

/-- Escaped, a text stands for itself. -/
theorem Matches.escaped_append_iff
    (needle : List Char)
    {text : List Char} :
    Matches (needle.flatMap Sql.escaped ++ pattern) text ↔
      ∃ rest, text = needle ++ rest ∧ Matches pattern rest := by
  induction needle generalizing text with
  | nil =>
      simp
  | cons character needle inductionHypothesis =>
      have first (rest : List Char) :
          Matches (Sql.escaped character ++ rest) text ↔
            ∃ later, text = character :: later ∧ Matches rest later := by
        by_cases special : IsSpecial character
        · rw [escaped_of_special special]
          exact escaped_iff character
        · rw [escaped_of_plain special]
          exact ordinary_iff special
      rw [List.flatMap_cons, List.append_assoc, first]
      simp [inductionHypothesis]

theorem Matches.any (text : List Char) : Matches ['%'] text := by
  simpa using Matches.run text .nothing

theorem IsWellFormed.escaped_append
    (needle : List Char)
    (wellFormed : IsWellFormed pattern) :
    IsWellFormed (needle.flatMap Sql.escaped ++ pattern) := by
  induction needle with
  | nil =>
      exact wellFormed
  | cons character needle inductionHypothesis =>
      rw [List.flatMap_cons, List.append_assoc]
      by_cases special : IsSpecial character
      · rw [escaped_of_special special]
        exact .escaped special inductionHypothesis
      · rw [escaped_of_plain special]
        exact .unescaped (fun isEscape => special (Or.inl isEscape))
          inductionHypothesis

end

section

variable (needle : String)

theorem isWellFormed_containsPattern :
    IsWellFormed (containsPattern needle).toList := by
  rw [toList_containsPattern]
  exact .unescaped (by decide)
    (.escaped_append _ (.unescaped (by decide) .nothing))

variable (haystack : String)

theorem matches_containsPattern_iff :
    Matches (containsPattern needle).toList haystack.toList ↔
      needle.toList <:+: haystack.toList := by
  rw [toList_containsPattern, Matches.run_iff]
  constructor
  · rintro ⟨before, rest, shape, found⟩
    obtain ⟨later, rfl, -⟩ := (Matches.escaped_append_iff _).mp found
    exact ⟨before, later, by rw [shape, List.append_assoc]⟩
  · rintro ⟨before, later, shape⟩
    refine ⟨before, needle.toList ++ later, ?_, ?_⟩
    · rw [← shape, List.append_assoc]
    · exact (Matches.escaped_append_iff _).mpr ⟨later, rfl, .any later⟩

theorem position_pos_iff :
    0 < position needle haystack ↔
      needle.toList <:+: haystack.toList := by
  have occurs :
      (haystack.toList.tails.findIdx? needle.toList.isPrefixOf).isSome =
          true ↔
        needle.toList <:+: haystack.toList := by
    rw [List.findIdx?_isSome, List.any_eq_true, List.infix_iff_prefix_suffix]
    simp [and_comm]
  rw [← occurs, position]
  cases haystack.toList.tails.findIdx? needle.toList.isPrefixOf <;> simp

theorem matchPattern_containsPattern :
    matchPattern (containsPattern needle) haystack =
      decide (0 < position needle haystack) := by
  rw [Bool.eq_iff_iff, decide_eq_true_eq, matchPattern_eq_true_iff,
    matches_containsPattern_iff, position_pos_iff]

theorem occursIn_eq_position :
    occursIn needle.toList haystack.toList =
      decide (0 < position needle haystack) := by
  rw [Bool.eq_iff_iff, decide_eq_true_eq, occursIn_eq_true_iff,
    position_pos_iff]

end

section

variable (dialect : Dialect)
variable (column : ColumnRef)
variable (needle : String)
variable {row : JoinedRow}

/-- Whatever the search is made of, its answer is the place of the text. -/
theorem substringTest_truth_of_text
    {haystack : String}
    (content : row.get? column = some (.text haystack)) :
    (substringTest dialect column false needle).truth row =
        .ofBool (decide (0 < position needle haystack)) ∧
      (substringTest dialect column true needle).truth row =
        .ofBool (decide (position needle haystack = 0)) := by
  have absent :
      (Truth.ofBool (decide (0 < position needle haystack))).not =
        .ofBool (decide (position needle haystack = 0)) := by
    by_cases found : position needle haystack = 0 <;>
      simp [found, Truth.ofBool, Truth.not, Nat.pos_iff_ne_zero]
  cases dialect <;>
    simp [substringTest, Test.truth, Target.read, Target.plain, Cast.apply,
      content, occurrenceTruth, patternTruth, Value.searched?,
      Searched.contains, Truth.negatedIf, matchPattern_containsPattern,
      occursIn_eq_position, absent]

theorem substringTest_truth_of_null
    (negated : Bool)
    (content : row.get? column = none) :
    (substringTest dialect column negated needle).truth row = .unknown := by
  cases dialect <;> cases negated <;>
    simp [substringTest, Test.truth, Target.read, Target.plain, content,
      occurrenceTruth, patternTruth, Truth.negatedIf, Truth.not]

end

/-- Every database looks for a text literally. -/
structure SearchesLiterally (needle : String) : Prop where
  /-- The pattern is the text after three replacements, between two runs. -/
  pattern :
    (containsPattern needle).toList =
      '%' ::
        (replaced '_' ['\\', '_']
            (replaced '%' ['\\', '%']
              (replaced '\\' ['\\', '\\'] needle.toList)) ++
          ['%'])
  wellFormed : IsWellFormed (containsPattern needle).toList
  matches_iff :
    ∀ haystack : String,
      Matches (containsPattern needle).toList haystack.toList ↔
        needle.toList <:+: haystack.toList
  position_iff :
    ∀ haystack : String,
      0 < position needle haystack ↔ needle.toList <:+: haystack.toList
  /-- In a column of texts the tests ask for the place of the text. -/
  ofText :
    ∀ (dialect : Dialect) (row : JoinedRow) (column : ColumnRef)
      (haystack : String),
      row.get? column = some (.text haystack) →
        (substringTest dialect column false needle).truth row =
            .ofBool (decide (0 < position needle haystack)) ∧
          (substringTest dialect column true needle).truth row =
            .ofBool (decide (position needle haystack = 0))
  ofNull :
    ∀ (dialect : Dialect) (row : JoinedRow) (column : ColumnRef)
      (negated : Bool),
      row.get? column = none →
        (substringTest dialect column negated needle).truth row = .unknown

/--
The pattern of a text is well formed and stands for the texts that contain it,
so a search by a pattern and one by a position agree on every row.
-/
theorem searchesLiterally (needle : String) : SearchesLiterally needle where
  pattern := by
    rw [toList_containsPattern, flatMap_escaped]
  wellFormed := isWellFormed_containsPattern needle
  matches_iff := matches_containsPattern_iff needle
  position_iff := position_pos_iff needle
  ofText dialect _ column _ content :=
    substringTest_truth_of_text dialect column needle content
  ofNull dialect _ column negated content :=
    substringTest_truth_of_null dialect column needle negated content

end RecordQuery.Sql
