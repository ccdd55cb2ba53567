import KeyedStore.Calendar.Timestamp
import KeyedStore.Entity.Kind

/-!
# Specimens of structured entities

Records with every sort of field: texts that may be missing, instants, small and large integers,
lists, maps with missing values, and key fields that collide with the identity or are declared
under a wrong name.

## References

- SPEC_FULL.md, section 10.2: entities with all sorts of fields, as the tests of the program declare
  them
-/

namespace KeyedStore

/-- A text that may be missing, as JSON. -/
def optionalText : Option String → Json
  | some value => .string value
  | none => .null

/-- A list of texts as JSON. -/
def textList (values : List String) : Json :=
  .array (values.map .string)

/-- An instant as JSON. -/
def instantText (instant : Instant) : Json :=
  .string instant.exactText

/-- The profile of a player. -/
structure Profile where
  /-- The key, if the profile has one. -/
  key : Option String
  /-- The name. -/
  name : String
  /-- When the player joined. -/
  joined : Instant
  /-- A second name. -/
  nickname : Option String

/-- Profiles as a kind of entities. -/
def Profile.kind : StructuredKind Profile where
  declaration := ⟨"specimen::Profile", "profiles", "key"⟩
  key profile := profile.key
  payload profile :=
    .ok (.object [("key", optionalText profile.key), ("name", .string profile.name),
      ("joined", instantText profile.joined), ("nickname", optionalText profile.nickname)])
  read := (((((Record.of Profile.mk).optional "key" Shape.text).required "name" Shape.text).required
    "joined" Shape.instant).optional "nickname" Shape.text).read

/-- A later form of the profile of a player, in the same collection. -/
structure ProfileV2 where
  /-- The key. -/
  key : String
  /-- The name. -/
  name : String
  /-- The level. -/
  level : UInt8
  /-- The rank. -/
  rank : Int32
  /-- Whether the player is active. -/
  active : Bool
  /-- Words about the player. -/
  tags : List String

/-- Profiles of the later form as a kind of entities. -/
def ProfileV2.kind : StructuredKind ProfileV2 where
  declaration := ⟨"specimen::ProfileV2", "profiles", "key"⟩
  key profile := some profile.key
  payload profile :=
    .ok (.object [("key", .string profile.key), ("name", .string profile.name),
      ("level", .whole profile.level.toNat), ("rank", .whole profile.rank.toInt),
      ("active", .bool profile.active), ("tags", textList profile.tags)])
  read := (((((((Record.of ProfileV2.mk).required "key" Shape.text).required "name"
    Shape.text).required "level" Shape.uint8).required "rank" Shape.int32).required "active"
    Shape.flag).withDefault "tags" (Shape.listOf Shape.text) []).read

/-- A planet with its inhabitants. -/
structure Planet where
  /-- The key, if the planet has one. -/
  planetId : Option String
  /-- The name. -/
  displayName : String
  /-- When the planet was made. -/
  createdAt : Instant
  /-- A second name. -/
  nickname : Option String
  /-- The inhabitants. -/
  citizens : List String

/-- Planets as a kind of entities. -/
def Planet.kind : StructuredKind Planet where
  declaration := ⟨"specimen::Planet", "planets", "planet_id"⟩
  key planet := planet.planetId
  payload planet :=
    .ok (.object [("planet_id", optionalText planet.planetId),
      ("display_name", .string planet.displayName), ("created_at", instantText planet.createdAt),
      ("nickname", optionalText planet.nickname), ("citizens", textList planet.citizens)])
  read := ((((((Record.of Planet.mk).optional "planet_id" Shape.text).required "display_name"
    Shape.text).required "created_at" Shape.instant).optional "nickname" Shape.text).required
    "citizens" (Shape.listOf Shape.text)).read

/-- A record with a field that is named like the identity. -/
structure Shadowing where
  /-- The key. -/
  id : String
  /-- The field that is named like the identity. -/
  shadow : String
  /-- The first number. -/
  a : Int64
  /-- The second number. -/
  b : Int64
  /-- The third number. -/
  c : Int64

/-- Shadowing records as a kind of entities. -/
def Shadowing.kind : StructuredKind Shadowing where
  declaration := ⟨"specimen::Shadowing", "shadowing", "id"⟩
  key record := some record.id
  payload record :=
    .ok (.object [("id", .string record.id), ("_id", .string record.shadow),
      ("a", .whole record.a.toInt), ("b", .whole record.b.toInt), ("c", .whole record.c.toInt)])
  read := ((((((Record.of Shadowing.mk).required "id" Shape.text).required "_id"
    Shape.text).required "a" Shape.int64).required "b" Shape.int64).required "c" Shape.int64).read

/-- A record whose key field is declared under another name than it has in the payload. -/
structure MisdeclaredKey where
  /-- The key. -/
  playerId : String
  /-- The name. -/
  displayName : String

/-- Misdeclared records as a kind of entities. -/
def MisdeclaredKey.kind : StructuredKind MisdeclaredKey where
  declaration := ⟨"specimen::MisdeclaredKey", "misdeclared", "player_id"⟩
  key record := some record.playerId
  payload record :=
    .ok (.object [("playerId", .string record.playerId),
      ("displayName", .string record.displayName)])
  read := (((Record.of MisdeclaredKey.mk).required "playerId" Shape.text).required "displayName"
    Shape.text).read

/-- A table of scores, some of them unknown. -/
structure Scoreboard where
  /-- The key. -/
  boardId : String
  /-- The scores by name. -/
  scores : NameMap (Option Int64)
  /-- The owner. -/
  owner : Option String

/-- Scores as an object. -/
def Scoreboard.scoresJson (scores : NameMap (Option Int64)) : Json :=
  .object (scores.pairs.map fun (name, score) =>
    (name, match score with
      | some value => .whole value.toInt
      | none => .null))

/-- Scoreboards as a kind of entities. -/
def Scoreboard.kind : StructuredKind Scoreboard where
  declaration := ⟨"specimen::Scoreboard", "scoreboards", "board_id"⟩
  key board := some board.boardId
  payload board :=
    .ok (.object [("board_id", .string board.boardId), ("scores", scoresJson board.scores),
      ("owner", optionalText board.owner)])
  read := ((((Record.of Scoreboard.mk).required "board_id" Shape.text).required "scores"
    (Shape.mapOf (Shape.optional Shape.int64))).optional "owner" Shape.text).read

end KeyedStore
