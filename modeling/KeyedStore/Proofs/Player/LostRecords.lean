import KeyedStore.Proofs.Player.Board
import KeyedStore.Proofs.Player.StatsNames
import KeyedStore.Proofs.Storage.FailedLoads

/-!
# Updates that find nothing to read

An award and a reward load the record of a player, change it and store it. A record that cannot be
loaded counts as one that is not there, so the change is made to a blank record, and the blank
record with the change takes the place of the one that could not be loaded. The failure is reported,
but the old record is gone unless the backend refuses the new one as well.

- `StartsOver`: what becomes of a record that is not found;
- `StatsService.startsOver_award`, `LevelService.startsOver_reward`: so it is with each service;
- `updates_of_failed_load`: so it is on every backend that may refuse requests.

## References

- SPEC_FULL.md, section 7, the trade-off between what is not found and what fails to load; section
  10.7
-/

namespace KeyedStore

/-- What becomes of the record of a player who has got a new one: nothing, if the player has no
name, and else the new record is put in its place. -/
structure StartsOver {σ α : Type} (backend : Backend σ) (get? : σ → Slot → Option Document)
    (service : Service σ) (kind : StructuredKind α) (playerId : String) (record : α) (after : σ) :
    Prop where
  nameless : playerId = "" → get? after = get? service.state
  named : playerId ≠ "" → ∃ document,
    (Codec.encode kind service.options record).value =
        .ok ⟨kind.declaration.collection, playerId, document⟩ ∧
      Overwrites backend get? ⟨kind.declaration.collection, playerId⟩ document service.state after

/-! ## Awards and rewards -/

namespace PlayerStats

/-- Statistics of a player without a name are refused for their key. -/
theorem encode_nameless (stats : NameMap Int64) (options : CodecOptions) :
    (Codec.encode kind options ⟨"", stats⟩).value =
      .error (.emptyKey "PlayerStatsData" "playerId") := rfl

end PlayerStats

namespace PlayerLevel

/-- The declaration of player levels keeps the rules. -/
theorem resolve_kind :
    kind.declaration.resolve = .ok ⟨"PlayerLevelData", "player_levels", "playerId"⟩ := rfl

/-- The experience of a player with a name has a document, which is decoded to it. -/
theorem exists_encode (record : PlayerLevel) (hne : record.playerId ≠ "")
    (options : CodecOptions) :
    ∃ document, (Codec.encode kind options record).value =
        .ok ⟨"player_levels", record.playerId, document⟩ ∧
      ∀ other : CodecOptions, Codec.decode kind other document record.playerId = .ok record := by
  obtain ⟨metadata, fields, hlossless⟩ := record.lossless
  obtain rfl : ⟨"PlayerLevelData", "player_levels", "playerId"⟩ = metadata :=
    Except.ok.inj (resolve_kind.symm.trans hlossless.resolves)
  exact hlossless.exists_encode rfl hne options

/-- Levels of a player without a name are refused for their key. -/
theorem encode_nameless (experience : Int64) (options : CodecOptions) :
    (Codec.encode kind options ⟨"", experience⟩).value =
      .error (.emptyKey "PlayerLevelData" "playerId") := rfl

end PlayerLevel

section Updates

variable {σ : Type} {backend : Backend σ} {get? : σ → Slot → Option Document}
  {service : Service σ} {playerId : String}

/-- An award to a player whose record cannot be loaded is the first award to that player. -/
theorem StatsService.startsOver_award (hslotted : backend.Slotted get?)
    (hload : (Facade.load PlayerStats.kind playerId).reports backend service ≠ [])
    (increments : NameMap Int64) :
    StartsOver backend get? service PlayerStats.kind playerId ⟨playerId, increments⟩
      ((award playerId increments).run backend service).2.state := by
  rw [award, loadOrBlank, Routine.bind_assoc]
  simp only [Routine.pure_bind]
  refine ⟨fun hnameless => ?_, fun hne => ?_⟩
  · -- A record without a key is not stored, so the old one stays.
    subst hnameless
    refine get?_of_failed_load hslotted PlayerStats.resolve_kind hload increments ?_
      (PlayerStats.encode_nameless increments service.options)
    simp only [Option.getD_none, PlayerStats.add_blank]
  · have hencode := PlayerStats.encode_eq hne increments service.options
    refine ⟨_, hencode, overwrites_of_failed_load hslotted PlayerStats.resolve_kind hload
      increments ?_ hencode⟩
    simp only [Option.getD_none, PlayerStats.add_blank]

/-- A reward for a player whose record cannot be loaded is the first reward for that player. -/
theorem LevelService.startsOver_reward (hslotted : backend.Slotted get?)
    (hload : (Facade.load PlayerLevel.kind playerId).reports backend service ≠ [])
    (amount : Int64) :
    StartsOver backend get? service PlayerLevel.kind playerId
      ((PlayerLevel.blank playerId).add amount)
      ((reward playerId amount).run backend service).2.state := by
  rw [reward, loadOrBlank, Routine.bind_assoc]
  refine ⟨fun hnameless => ?_, fun hne => ?_⟩
  · subst hnameless
    exact get?_of_failed_load hslotted PlayerLevel.resolve_kind hload _ rfl
      (PlayerLevel.encode_nameless _ service.options)
  · obtain ⟨document, hencode, -⟩ :=
      ((PlayerLevel.blank playerId).add amount).exists_encode hne service.options
    exact ⟨document, hencode,
      overwrites_of_failed_load hslotted PlayerLevel.resolve_kind hload _ rfl hencode⟩

end Updates

/-- On every backend, if the record of a player cannot be loaded, an award or a reward puts a record
of nothing but itself in the place of the one that is there, if the backend takes it. No document is
changed if the backend does not take it, or if the player has no name. -/
theorem updates_of_failed_load {σ : Type} {backend : Backend σ}
    {get? : σ → Slot → Option Document} (hslotted : backend.Slotted get?) (service : Service σ)
    (playerId : String) :
    ((Facade.load PlayerStats.kind playerId).reports backend service ≠ [] →
      ∀ increments, StartsOver backend get? service PlayerStats.kind playerId
        ⟨playerId, increments⟩
        ((StatsService.award playerId increments).run backend service).2.state) ∧
    ((Facade.load PlayerLevel.kind playerId).reports backend service ≠ [] →
      ∀ amount, StartsOver backend get? service PlayerLevel.kind playerId
        ((PlayerLevel.blank playerId).add amount)
        ((LevelService.reward playerId amount).run backend service).2.state) :=
  ⟨StatsService.startsOver_award hslotted, LevelService.startsOver_reward hslotted⟩

/-- Experience that another writer has kept as a text is gone after the next reward. -/
theorem updates_of_failed_load_text :
    let slot : Slot := ⟨"player_levels", "p"⟩
    let written : Document := [("_id", .string "p"), ("experience", .string "10")]
    let start := Service.on (Switched.mk (.opened (Shelf.empty.put slot written)) []) .collect
    ((LevelService.reward "p" 7).run Switched.backend start).2.state.memory.get? slot =
      some [("_id", .string "p"), ("experience", .int64 7)] := by
  intro slot written start
  have hload : (Facade.load PlayerLevel.kind "p").reports Switched.backend start ≠ [] := by
    intro h
    exact absurd (congrArg List.length h) (by decide +kernel)
  obtain ⟨document, hencode, hover⟩ :=
    ((updates_of_failed_load Switched.slotted start "p").2 hload 7).named (by decide)
  obtain rfl : [("_id", .string "p"), ("experience", .int64 7)] = document :=
    congrArg Encoded.document (Except.ok.inj hencode)
  exact (hover slot).trans (if_pos rfl)

/-- It is not true that an update leaves a record alone that it could not read. -/
theorem not_forall_update_keeps :
    ¬ ∀ (start : Service Switched) (playerId : String),
      ((Facade.load PlayerStats.kind playerId).reports Switched.backend start ≠ [] →
        ∀ increments, ((StatsService.award playerId increments).run Switched.backend
            start).2.state.memory.get? ⟨"player_stats", playerId⟩ =
          start.state.memory.get? ⟨"player_stats", playerId⟩) ∧
      ((Facade.load PlayerLevel.kind playerId).reports Switched.backend start ≠ [] →
        ∀ amount, ((LevelService.reward playerId amount).run Switched.backend
            start).2.state.memory.get? ⟨"player_levels", playerId⟩ =
          start.state.memory.get? ⟨"player_levels", playerId⟩) := by
  intro h
  let slot : Slot := ⟨"player_stats", "p"⟩
  let written : Document := [("_id", .string "p"), ("stats", .document [("kills", .int64 10)])]
  -- The backend finds nothing at the moment, but it takes what it is given.
  let start := Service.on (Switched.mk (.opened (Shelf.empty.put slot written)) [.find]) .collect
  have hload : (Facade.load PlayerStats.kind "p").reports Switched.backend start ≠ [] := by
    intro h
    exact absurd (congrArg List.length h) (by decide +kernel)
  obtain ⟨document, hencode, hover⟩ := (StatsService.startsOver_award Switched.slotted hload
    (NameMap.empty.insert "wins" 1)).named (by decide)
  obtain rfl : [("_id", .string "p"), ("stats", .document [("wins", .int64 1)])] = document :=
    congrArg Encoded.document (Except.ok.inj hencode)
  have hafter := (hover slot).trans (if_pos rfl)
  have hkept := (h start "p").1 hload (NameMap.empty.insert "wins" 1)
  have hbefore : start.state.memory.get? slot = some written := rfl
  exact absurd (hbefore.symm.trans (hkept.symm.trans hafter)) (by simp [written])

end KeyedStore
