import RecordQuery.Entity

namespace RecordQuery.Club

/-!
# The entities of a sports club

Players challenge each other to matches on courts (`cord`); items are owned by
players and nest in one another.  The four entities between them have every kind
of field, joins to one and to many records, two joins to the same table, and a
join of a table to itself.
-/

/-- The variants of a general status. -/
def generalStatuses : List String := ["ACTIVE", "PASSIVE", "DELETED"]

/-- The levels of players. -/
def levels : List String :=
  ["BEGINNER", "INTERMEDIATE", "ADVANCED", "PROFICIENT"]

/-- The genders of players. -/
def genders : List String := ["MAN", "WOMEN"]

/-- The states of a challenge. -/
def challengeStatuses : List String := ["REQUESTED", "ACCEPTED", "REJECTED"]

/-- The grades of items. -/
def grades : List String := ["A", "B+", "NOT SET", "Élite", "X,Y", ""]

/-- A column that is never null. -/
def required (name : String) : Column := ⟨name, true⟩

/-- A column that may be null. -/
def optional (name : String) : Column := ⟨name, false⟩

/-- Players. -/
def player : Entity where
  table := "player"
  resource := "players"
  columns :=
    [ required "id",
      required "full_name",
      optional "level",
      optional "gender",
      optional "phone",
      required "status" ]
  fields :=
    [ .own "id" .integer "id",
      .own "fullName" .text "full_name",
      .own "level" (.enumeration levels) "level",
      .own "gender" (.enumeration genders) "gender",
      .own "phone" .text "phone",
      .own "status" (.enumeration generalStatuses) "status" ]
  defaultSort := "id"

/-- Courts. -/
def cord : Entity where
  table := "cord"
  resource := "cords"
  columns :=
    [ required "id",
      required "name",
      optional "address",
      required "status" ]
  fields :=
    [ .own "id" .integer "id",
      .own "name" .text "name",
      .own "address" .text "address",
      .own "status" (.enumeration generalStatuses) "status",
      .related "challengeId" .integer
        ⟨"challenge", "challenge", "id", "cord_id", "id"⟩ ]
  defaultSort := "id"

/-- Challenges to a match. -/
def challenge : Entity where
  table := "challenge"
  resource := "challenges"
  columns :=
    [ required "id",
      optional "match_time",
      required "status",
      optional "proposer_id",
      optional "acceptor_id",
      optional "cord_id" ]
  fields :=
    [ .own "id" .integer "id",
      .own "matchTime" .timestamp "match_time",
      .own "status" (.enumeration challengeStatuses) "status",
      .related "cordId" .integer
        ⟨"cord", "cord", "cord_id", "id", "id"⟩,
      .related "proposerId" .integer
        ⟨"proposer", "player", "proposer_id", "id", "id"⟩,
      .related "acceptorId" .integer
        ⟨"acceptor", "player", "acceptor_id", "id", "id"⟩ ]
  defaultSort := "id"

/-- The join of an item with its owner, reading one of its columns. -/
def owner (column : String) : Join :=
  ⟨"owner", "player", "owner_id", "id", column⟩

/-- The join of an item with the item it lies in. -/
def parent (column : String) : Join :=
  ⟨"parent", "item", "parent_id", "id", column⟩

/-- The join of an item with the items that lie in it. -/
def child (column : String) : Join :=
  ⟨"child", "item", "id", "parent_id", column⟩

/-- Items. -/
def item : Entity where
  table := "item"
  resource := "items"
  columns :=
    [ required "id",
      required "title",
      optional "note",
      optional "score",
      optional "active",
      optional "created_at",
      optional "token",
      optional "grade",
      optional "owner_id",
      optional "parent_id" ]
  fields :=
    [ .related "parentId" .integer (parent "id"),
      .own "id" .integer "id",
      .own "title" .text "title",
      .related "ownerName" .text (owner "full_name"),
      .own "note" .text "note",
      .own "score" .float "score",
      .own "active" .boolean "active",
      .related "parentTitle" .text (parent "title"),
      .own "createdAt" .timestamp "created_at",
      .own "token" .uuid "token",
      .own "grade" (.enumeration grades) "grade",
      .own "meta.note" .text "note",
      .own "never" (.enumeration []) "grade",
      .related "ownerId" .integer (owner "id"),
      .related "ownerLevel" (.enumeration levels) (owner "level"),
      .related "parentScore" .float (parent "score"),
      .related "parentActive" .boolean (parent "active"),
      .related "parentCreatedAt" .timestamp (parent "created_at"),
      .related "parentToken" .uuid (parent "token"),
      .related "childId" .integer (child "id") ]
  defaultSort := "title"

/-- All entities of the club. -/
def entities : List Entity := [player, cord, challenge, item]

/-- The entity of a table. -/
def entity? (table : String) : Option Entity :=
  entities.find? fun entity => entity.table == table

end RecordQuery.Club
