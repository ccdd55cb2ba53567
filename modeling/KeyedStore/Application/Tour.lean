import KeyedStore.Player.Level
import KeyedStore.Player.Stats
import KeyedStore.Storage.Connect
import KeyedStore.World.Archive

/-!
# The tour

A walk through the operations of the store: statistics of some players, rewards of a game, and a
world that is stored, loaded and deleted again. It tells what it does in the log. The names of the
players and of the world are its only input.

## References

- SPEC_FULL.md, section 10.1, the demonstration: `run_stats_flow`, `run_level_flow`,
  `run_world_flow`
-/

namespace KeyedStore.Tour

/-- The names that the tour uses. -/
structure Cast where
  /-- The player whose statistics are shown. -/
  player : String
  /-- The players who get statistics beside. -/
  others : List String
  /-- The player with the small reward. -/
  second : String
  /-- The player with the large reward. -/
  first : String
  /-- The world. -/
  world : String

/-- The part of the program that writes the entries of the tour. -/
def source : String := "entity_datastore"

/-- An entry of the tour. -/
def entry (level : LogLevel) (message : String) : LogEntry :=
  ⟨level, source, message⟩

/-- Tell something in the log. -/
def tell (message : String) : Routine Unit :=
  .log (entry .info message)

/-- Counters as they are shown. -/
def statsText (stats : NameMap Int64) : String :=
  "\x7b" ++ String.intercalate ", " (stats.pairs.map fun (name, value) =>
    Text.quoted name ++ ": " ++ Text.decimal value.toInt) ++ "\x7d"

/-- Give a counter to players in turn and count the successes. -/
def awardAll (increments : NameMap Int64) : List String → Routine Nat
  | [] => pure 0
  | playerId :: rest => do
    -- The failure of one player does not keep the others from their counters.
    let result ← (StatsService.award playerId increments).attempt
    let others ← awardAll increments rest
    return (if result.isOk then 1 else 0) + others

/-- Delete the statistics of players in turn. -/
def clearAll : List String → Routine Unit
  | [] => pure ()
  | playerId :: rest => do
    StatsService.clear playerId
    clearAll rest

/-- The walk through statistics. -/
def stats (cast : Cast) : Routine Unit := do
  let awarded ← StatsService.award cast.player (.ofList [("kills", 3), ("wins", 1)])
  tell ("🏆 통계 지급: player=" ++ cast.player ++ ", stats=" ++ statsText awarded)
  let succeeded ← awardAll (.ofList [("joins", 1)]) cast.others
  tell ("📊 동시 지급 완료: " ++ Text.decimal succeeded ++ "/" ++ Text.decimal cast.others.length)
  let loaded ← StatsService.get cast.player
  tell ("📊 통계 조회: player=" ++ cast.player ++ ", stats=" ++ statsText loaded)
  StatsService.remove cast.player ["wins"]
  clearAll (cast.others ++ [cast.player])

/-- Tell what rewards have brought, one after the other. -/
def tellAwards : List (String × LevelAward) → Routine Unit
  | [] => pure ()
  | (playerId, award) :: rest => do
    tell ("⭐ 경험치 지급: player=" ++ playerId ++ ", +" ++ Text.decimal award.awarded.toInt ++
      ", level " ++ Text.decimal award.oldLevel ++ " → " ++ Text.decimal award.newLevel)
    tellAwards rest

/-- Tell how far players have come, one after the other. -/
def tellProgress : List (String × LevelProgress) → Routine Unit
  | [] => pure ()
  | (playerId, progress) :: rest => do
    tell ("⭐ 레벨 조회: player=" ++ playerId ++ ", level=" ++ Text.decimal progress.level ++
      ", progress=" ++ Text.decimal progress.inLevel ++ "/" ++ Text.decimal progress.needed)
    tellProgress rest

/-- The walk through levels. -/
def levels (cast : Cast) : Routine Unit := do
  let awards ← LevelService.rewardGame (.ofList [(cast.first, 950), (cast.second, 150)])
  tellAwards awards.pairs
  let progress ← LevelService.list [cast.second, cast.first]
  tellProgress progress.pairs

/-- The walk through worlds, where memory grants no more than `granted` bytes at once. -/
def world (granted : Nat) (cast : Cast) : Routine Unit := do
  let archive := WorldArchive.of "lobby" cast.world [0x1F, 0x8B, 0x08, 0x00]
  let key := archive.key
  Facade.storeBinary granted WorldArchive.kind archive
  match ← Facade.loadBinary WorldArchive.kind key with
  | some loaded =>
    tell ("🌍 월드 조회: key=" ++ loaded.key ++ ", bytes=" ++ Text.decimal loaded.data.length)
  | none => .log (entry .warn ("🌍 월드 없음: key=" ++ key))
  Facade.deleteBinary WorldArchive.kind key
  let remains ← Facade.existsBinary WorldArchive.kind key
  tell ("🌍 월드 삭제 후 존재 여부: key=" ++ key ++ ", exists=" ++
    (if remains then "true" else "false"))

/-- The whole tour on a store that has been opened. -/
def whole (granted : Nat) (cast : Cast) : Routine Unit := do
  .log StatsService.opening
  .log LevelService.opening
  tell "✅ 저장 계층이 성공적으로 초기화되었습니다!"
  stats cast
  levels cast
  world granted cast

end KeyedStore.Tour
