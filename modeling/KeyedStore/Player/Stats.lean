import KeyedStore.Storage.Facade

/-!
# Statistics of players

Named counters of a player, kept as one entity under the player's name. `PlayerStats.add` adds
increments to the counters; a sum that does not fit its integers cuts the computation short.

The service loads, changes and stores the counters of one player. Nothing is locked between loading
and storing. A player whose record cannot be loaded counts as one without a record.

## References

- SPEC_FULL.md, section 10.7: `get_player_stats`, `award_player_stats`, `set_player_stats`,
  `delete_player_stats`, `clear_player_stats`, `load_or_empty`, `apply_increments`
-/

namespace KeyedStore

/-- The counters of a player. -/
structure PlayerStats where
  /-- The player. -/
  playerId : String
  /-- The counters by name. -/
  stats : NameMap Int64

namespace PlayerStats

/-- A player without counters. -/
def blank (playerId : String) : PlayerStats :=
  ⟨playerId, .empty⟩

/-- The counters as an object. -/
def statsJson (stats : NameMap Int64) : Json :=
  .object (stats.pairs.map fun (name, value) => (name, .whole value.toInt))

/-- Player statistics as a kind of entities. -/
def kind : StructuredKind PlayerStats where
  declaration := ⟨"player::PlayerStatsData", "player_stats", "playerId"⟩
  key record := some record.playerId
  payload record :=
    .ok (.object [("playerId", .string record.playerId), ("stats", statsJson record.stats)])
  read :=
    (((Record.of PlayerStats.mk).required "playerId" Shape.text).withDefault "stats"
      (Shape.mapOf Shape.int64) .empty).read

/-- Add an increment to a counter, which is zero if it is not there. -/
def addOne (stats : NameMap Int64) (name : String) (increment : Int64) :
    Except Abort (NameMap Int64) :=
  -- The sum is exact; only then is it held against the range.
  let sum := ((stats.get? name).getD 0).toInt + increment.toInt
  if -9223372036854775808 ≤ sum ∧ sum < 9223372036854775808 then
    .ok (stats.insert name (Int64.ofInt sum))
  else .error .additionOverflow

/-- Add increments in turn. -/
def addAll (stats : NameMap Int64) : List (String × Int64) → Except Abort (NameMap Int64)
  | [] => .ok stats
  | (name, increment) :: rest =>
    match addOne stats name increment with
    | .ok stats => addAll stats rest
    | .error cause => .error cause

/-- Add increments to the counters of a player. -/
def add (record : PlayerStats) (increments : NameMap Int64) : Except Abort PlayerStats :=
  match addAll record.stats increments.pairs with
  | .ok stats => .ok { record with stats }
  | .error cause => .error cause

end PlayerStats

namespace StatsService

/-- The part of the program that writes the entries of the service. -/
def source : String := "entity_datastore::services::stats::stats_service"

/-- The entry at the start of the service. -/
def opening : LogEntry :=
  ⟨.info, source, "📊 StatsService 초기화 완료"⟩

/-- The record of a player, or a blank one. -/
def loadOrBlank (playerId : String) : Routine PlayerStats := do
  return (← Facade.load PlayerStats.kind playerId).getD (.blank playerId)

/-- The counters of a player. -/
def get (playerId : String) : Routine (NameMap Int64) := do
  return (← loadOrBlank playerId).stats

/-- Add increments to the counters of a player; the result is the new counters. -/
def award (playerId : String) (increments : NameMap Int64) : Routine (NameMap Int64) := do
  let record ← loadOrBlank playerId
  match record.add increments with
  -- A sum that does not fit ends the award before anything is stored.
  | .error cause => .abort cause
  | .ok changed =>
    Facade.store PlayerStats.kind changed
    return changed.stats

/-- Replace the counters of a player. -/
def set (playerId : String) (stats : NameMap Int64) : Routine Unit :=
  Facade.store PlayerStats.kind ⟨playerId, stats⟩

/-- Remove counters of a player. A player without a record stays without one. -/
def remove (playerId : String) (names : List String) : Routine Unit := do
  match ← Facade.load PlayerStats.kind playerId with
  | none => pure ()
  | some record =>
    Facade.store PlayerStats.kind { record with stats := names.foldl NameMap.erase record.stats }

/-- Delete the record of a player. -/
def clear (playerId : String) : Routine Unit :=
  Facade.delete PlayerStats.kind playerId

end StatsService

end KeyedStore
