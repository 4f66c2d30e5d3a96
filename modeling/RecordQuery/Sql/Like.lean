namespace RecordQuery.Sql

/-!
# Patterns

In a pattern a percent sign stands for any run of characters, an underscore for
any one character, and a backslash makes the character after it stand for
itself.  `escapeWildcards` puts a backslash before each of the three, so that a
text between two percent signs matches exactly the texts that contain it.
-/

/-- One step of a pattern. -/
inductive PatternItem where
  /-- Exactly this character. -/
  | exactly (character : Char)
  /-- Any one character. -/
  | one
  /-- Any run of characters. -/
  | many
  deriving Repr, DecidableEq

/-- The steps of a pattern; none if a backslash ends it. -/
def patternItems? : List Char → Option (List PatternItem)
  | [] => some []
  | ['\\'] => none
  | '\\' :: character :: rest =>
      (patternItems? rest).map (.exactly character :: ·)
  | '%' :: rest => (patternItems? rest).map (.many :: ·)
  | '_' :: rest => (patternItems? rest).map (.one :: ·)
  | character :: rest =>
      (patternItems? rest).map (.exactly character :: ·)

/-- Whether the steps of a pattern match a text. -/
def matchItems : List PatternItem → List Char → Bool
  | [], [] => true
  | [], _ :: _ => false
  | .exactly _ :: _, [] => false
  | .exactly expected :: items, character :: rest =>
      expected == character && matchItems items rest
  | .one :: _, [] => false
  | .one :: items, _ :: rest => matchItems items rest
  | .many :: items, [] => matchItems items []
  | .many :: items, character :: rest =>
      matchItems items (character :: rest) ||
        matchItems (.many :: items) rest

/-- Whether a pattern matches a text; a pattern without meaning does not. -/
def matchPattern (pattern text : String) : Bool :=
  match patternItems? pattern.toList with
  | none => false
  | some items => matchItems items text.toList

/-- A text with a backslash before every character special in patterns. -/
def escapeWildcards (text : String) : String :=
  String.ofList
    (text.toList.flatMap fun character =>
      if character = '\\' ∨ character = '%' ∨ character = '_' then
        ['\\', character]
      else
        [character])

/-- The pattern of the texts that contain a text. -/
def containsPattern (text : String) : String :=
  "%" ++ escapeWildcards text ++ "%"

end RecordQuery.Sql
