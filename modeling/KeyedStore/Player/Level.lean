import KeyedStore.Player.Experience
import KeyedStore.Storage.Facade

/-!
# Levels of players

The experience of a player is kept as one entity under the player's name; the level is computed
from it. The service looks experience up and rewards players, one at a time or all players of a
game. A player whose record cannot be loaded counts as one without experience.

## References

- SPEC_FULL.md, section 10.7: `get_player_experience`, `list_player_experiences`, `reward_player`,
  `reward_game`, `load_or_new`, `from_experience`
-/

namespace KeyedStore

/-- The experience of a player. -/
structure PlayerLevel where
  /-- The player. -/
  playerId : String
  /-- The amount of experience. -/
  experience : Int64

namespace PlayerLevel

/-- A player without experience. -/
def blank (playerId : String) : PlayerLevel :=
  ⟨playerId, 0⟩

/-- Player levels as a kind of entities. -/
def kind : StructuredKind PlayerLevel where
  declaration := ⟨"player::PlayerLevelData", "player_levels", "playerId"⟩
  key record := some record.playerId
  payload record :=
    .ok (.object [("playerId", .string record.playerId),
      ("experience", .whole record.experience.toInt)])
  read :=
    (((Record.of PlayerLevel.mk).required "playerId" Shape.text).withDefault "experience"
      Shape.int64 0).read

/-- The level of a player. -/
def level (record : PlayerLevel) : Nat :=
  Experience.level record.experience.toInt

/-- Add a reward to the experience of a player. -/
def add (record : PlayerLevel) (reward : Int64) : PlayerLevel :=
  { record with experience := Experience.add record.experience reward }

end PlayerLevel

/-- How far a player has come. -/
structure LevelProgress where
  /-- The player. -/
  playerId : String
  /-- The level. -/
  level : Nat
  /-- The experience. -/
  experience : Int64
  /-- The experience since the beginning of the level. -/
  inLevel : Int
  /-- The experience from the beginning of the level to the next one. -/
  needed : Int

/-- The progress that an amount of experience means. -/
def LevelProgress.of (playerId : String) (experience : Int64) : LevelProgress :=
  let level := Experience.level experience.toInt
  let floor : Int := Experience.floor level
  ⟨playerId, level, experience, experience.toInt - floor, Experience.floor (level + 1) - floor⟩

/-- What a reward has brought. -/
structure LevelAward where
  /-- The player. -/
  playerId : String
  /-- The reward. -/
  awarded : Int64
  /-- The level before it. -/
  oldLevel : Nat
  /-- The level after it. -/
  newLevel : Nat
  /-- Whether the level is a higher one. -/
  leveledUp : Bool

namespace LevelService

/-- The part of the program that writes the entries of the service. -/
def source : String := "entity_datastore::services::level::level_service"

/-- The entry at the start of the service. -/
def opening : LogEntry :=
  ⟨.info, source, "⭐ LevelService 초기화 완료"⟩

/-- The record of a player, or a blank one. -/
def loadOrBlank (playerId : String) : Routine PlayerLevel := do
  return (← Facade.load PlayerLevel.kind playerId).getD (.blank playerId)

/-- The progress of a player. -/
def get (playerId : String) : Routine LevelProgress := do
  return .of playerId (← loadOrBlank playerId).experience

/-- Look players up in turn, adding to what is known already. -/
def listFrom (known : NameMap LevelProgress) : List String → Routine (NameMap LevelProgress)
  | [] => pure known
  | playerId :: rest => do
    let progress ← get playerId
    listFrom (known.insert playerId progress) rest

/-- The progress of players. -/
def list (playerIds : List String) : Routine (NameMap LevelProgress) :=
  listFrom .empty playerIds

/-- Reward a player. -/
def reward (playerId : String) (amount : Int64) : Routine LevelAward := do
  let record ← loadOrBlank playerId
  let changed := record.add amount
  -- The award is told even if the store reports that it could not keep it.
  Facade.store PlayerLevel.kind changed
  return ⟨playerId, amount, record.level, changed.level, record.level < changed.level⟩

/-- Reward players one after the other, the last one first. The first error ends it, and what has
been stored by then stays. -/
def rewardEach : List (String × Int64) → Routine (NameMap LevelAward)
  | [] => pure .empty
  | (playerId, amount) :: rest => do
    let awards ← rewardEach rest
    let award ← reward playerId amount
    return awards.insert playerId award

/-- Reward all players of a game. -/
def rewardGame (rewards : NameMap Int64) : Routine (NameMap LevelAward) := do
  let awards ← rewardEach rewards.pairs
  Routine.log ⟨.info, source, "⭐ 게임 보상 지급 완료: " ++ Text.decimal awards.size ++ "명"⟩
  return awards

end LevelService

end KeyedStore
