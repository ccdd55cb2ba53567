import KeyedStore.Proofs.Codec.Identity
import KeyedStore.Proofs.Player.LostRecords
import KeyedStore.Proofs.Player.StatsRefinement
import KeyedStore.Proofs.Storage.Interleaving

/-!
# Calls for different players

A call of a player service asks the backend about the record of its player only, and it never writes
a record under another name than the player's own: a record that has been loaded belongs to the
player whose key it was loaded under, whatever its document holds. So calls for different players do
not interfere, in whatever order their steps are taken.

- `playerId_of_decode`: a record belongs to the player whose key it is decoded under;
- `PlayerCall.within_routine`: a call is about the record of its player;
- `PlayerCall.turns_separate`: calls for different players.

## References

- SPEC_FULL.md, section 5, callers at the same time; section 10.7
-/

namespace KeyedStore

/-! ## Owners of records -/

/-- Counters belong to the player whose key they are decoded under. -/
theorem PlayerStats.playerId_of_decode {options : CodecOptions} {document : Document}
    {key : String} {record : PlayerStats}
    (h : Codec.decode kind options document key = .ok record) :
    record.playerId = key :=
  Option.some.inj (decodesByKey.key_eq h)

/-- Experience belongs to the player whose key it is decoded under. -/
theorem PlayerLevel.playerId_of_decode {options : CodecOptions} {document : Document}
    {key : String} {record : PlayerLevel}
    (h : Codec.decode kind options document key = .ok record) :
    record.playerId = key :=
  Option.some.inj (decodesByKey.key_eq h)

/-- What is loaded under a key belongs to the key, if whatever is decoded under it does. -/
theorem Facade.within_load_of_owner {α : Type} {kind : StructuredKind α} {metadata : Metadata}
    (hresolve : kind.declaration.resolve = .ok metadata) {owner : α → String}
    (howner : ∀ {options document key entity},
      Codec.decode kind options document key = .ok entity → owner entity = key) (key : String) :
    (load kind key).Within ⟨metadata.collection, key⟩
      fun found => ∀ entity ∈ found, owner entity = key := by
  refine (within_load hresolve key).mono ?_
  intro found hfound entity hentity
  obtain ⟨options, document, hdecode⟩ := hfound entity hentity
  exact howner hdecode

/-! ## Calls about one record -/

namespace StatsService

open Routine

theorem within_load (playerId : String) :
    (Facade.load PlayerStats.kind playerId).Within (PlayerStats.slot playerId)
      fun found => ∀ record ∈ found, record.playerId = playerId :=
  Facade.within_load_of_owner PlayerStats.resolve_kind PlayerStats.playerId_of_decode playerId

theorem within_store (record : PlayerStats) :
    (Facade.store PlayerStats.kind record).Within (PlayerStats.slot record.playerId)
      fun _ => True :=
  Facade.within_store PlayerStats.resolve_kind rfl

theorem within_loadOrBlank (playerId : String) :
    (loadOrBlank playerId).Within (PlayerStats.slot playerId)
      fun record => record.playerId = playerId := by
  apply (within_load playerId).bind
  intro found hfound
  cases found with
  | none => exact within_pure rfl
  | some record => exact within_pure (hfound record rfl)

/-- An award is about the record of its player. -/
theorem within_award (playerId : String) (increments : NameMap Int64) :
    (award playerId increments).Within (PlayerStats.slot playerId) fun _ => True := by
  apply (within_loadOrBlank playerId).bind
  intro record hrecord
  rcases PlayerStats.add_cases record increments with ⟨-, hadd⟩ | ⟨-, sums, hadd, -⟩
  · simp only [hadd]
    exact within_abort _
  · -- The sums are stored under the name that the record bears.
    simp only [hadd]
    rw [← hrecord]
    exact (within_store ⟨record.playerId, sums⟩).bind fun _ _ => within_pure trivial

/-- Removing counters is about the record of the player. -/
theorem within_remove (playerId : String) (names : List String) :
    (remove playerId names).Within (PlayerStats.slot playerId) fun _ => True := by
  apply (within_load playerId).bind
  intro found hfound
  cases found with
  | none => exact within_pure trivial
  | some record =>
    rw [← hfound record rfl]
    exact within_store { record with stats := names.foldl NameMap.erase record.stats }

end StatsService

/-- The player whom a call is about. -/
def StatsCall.playerId : StatsCall → String
  | .award playerId _ | .set playerId _ | .remove playerId _ | .clear playerId
  | .get playerId => playerId

/-- A call asks about the counters of its player only. -/
theorem StatsCall.within_routine (call : StatsCall) :
    call.routine.Within (PlayerStats.slot call.playerId) fun _ => True := by
  have hdone : ∀ answer,
      (pure answer : Routine (Option Counters)).Within (PlayerStats.slot call.playerId)
        fun _ => True := fun _ => Routine.within_pure trivial
  cases call with
  | award playerId increments =>
    exact (StatsService.within_award playerId increments).bind fun _ _ => hdone _
  | set playerId stats =>
    exact (StatsService.within_store ⟨playerId, stats⟩).bind fun _ _ => hdone _
  | remove playerId names =>
    exact (StatsService.within_remove playerId names).bind fun _ _ => hdone _
  | clear playerId =>
    exact (Facade.within_delete PlayerStats.resolve_kind playerId).bind fun _ _ => hdone _
  | get playerId =>
    have hget : (StatsService.get playerId).Within (PlayerStats.slot playerId) fun _ => True :=
      (StatsService.within_loadOrBlank playerId).bind fun _ _ => Routine.within_pure trivial
    exact hget.bind fun _ _ => hdone _

/-- The slot of a player's experience. -/
def PlayerLevel.slot (playerId : String) : Slot :=
  ⟨"player_levels", playerId⟩

namespace LevelService

open Routine

theorem within_loadOrBlank (playerId : String) :
    (loadOrBlank playerId).Within (PlayerLevel.slot playerId)
      fun record => record.playerId = playerId := by
  apply (Facade.within_load_of_owner PlayerLevel.resolve_kind PlayerLevel.playerId_of_decode
    playerId).bind
  intro found hfound
  cases found with
  | none => exact within_pure rfl
  | some record => exact within_pure (hfound record rfl)

/-- A reward asks about the experience of its player only. -/
theorem within_reward (playerId : String) (amount : Int64) :
    (reward playerId amount).Within (PlayerLevel.slot playerId) fun _ => True := by
  apply (within_loadOrBlank playerId).bind
  intro record hrecord
  have hstore : (Facade.store PlayerLevel.kind (record.add amount)).Within
      (PlayerLevel.slot record.playerId) fun _ => True :=
    Facade.within_store PlayerLevel.resolve_kind rfl
  rw [← hrecord]
  exact hstore.bind fun _ _ => within_pure trivial

end LevelService

/-! ## Calls of both services -/

/-- A call of one of the two player services. -/
inductive PlayerCall where
  /-- A call about counters. -/
  | stats (call : StatsCall)
  /-- A reward of a player. -/
  | reward (playerId : String) (amount : Int64)

namespace PlayerCall

/-- The type of the answer to a call. -/
def Answer : PlayerCall → Type
  | .stats _ => Option Counters
  | .reward _ _ => LevelAward

/-- The routine of a call. -/
def routine : (call : PlayerCall) → Routine call.Answer
  | .stats call => call.routine
  | .reward playerId amount => LevelService.reward playerId amount

/-- The slot of the record that a call is about. -/
def slot : PlayerCall → Slot
  | .stats call => PlayerStats.slot call.playerId
  | .reward playerId _ => PlayerLevel.slot playerId

/-- Two calls of the same service name the same player. -/
def SamePlayer : PlayerCall → PlayerCall → Prop
  | .stats first, .stats second => first.playerId = second.playerId
  | .reward first _, .reward second _ => first = second
  | .stats _, .reward _ _ | .reward _ _, .stats _ => False

/-- Whether two calls name the same player is decidable. -/
instance (first second : PlayerCall) : Decidable (first.SamePlayer second) :=
  match first, second with
  | .stats first, .stats second =>
    inferInstanceAs (Decidable (first.playerId = second.playerId))
  | .reward first _, .reward second _ => inferInstanceAs (Decidable (first = second))
  | .stats _, .reward _ _ | .reward _ _, .stats _ => inferInstanceAs (Decidable False)

/-- Calls about one slot are calls for one player. -/
theorem samePlayer_of_slot_eq {first second : PlayerCall} (h : first.slot = second.slot) :
    first.SamePlayer second := by
  have hcollection : "player_stats" ≠ "player_levels" := by decide
  cases first with
  | stats first =>
    cases second with
    | stats second => exact congrArg Slot.id h
    | reward _ _ => exact absurd (congrArg Slot.collection h) hcollection
  | reward first _ =>
    cases second with
    | stats _ => exact absurd (congrArg Slot.collection h) hcollection.symm
    | reward second _ => exact congrArg Slot.id h

/-- A call asks about the record of its player only. -/
theorem within_routine (call : PlayerCall) : call.routine.Within call.slot fun _ => True := by
  cases call with
  | stats call => exact call.within_routine
  | reward playerId amount => exact LevelService.within_reward playerId amount

variable {ι : Type} [DecidableEq ι]

/-- Calls that are made at the same time, none of which has taken a step. -/
def made (calls : ι → PlayerCall) (service : Service Memory) :
    Callers Memory fun i => (calls i).Answer :=
  ⟨fun i => (calls i).routine, service⟩

/-- Calls for different players do not interfere, whatever documents there are. Every call ends
after enough steps of its own. Whatever the order of the steps, a call that has ended has the answer
that it has alone, or is cut short as it is alone; and if all calls have ended, the documents are
those that are left when the calls are made one after the other, in any order. -/
theorem turns_separate {calls : ι → PlayerCall}
    (hplayers : ∀ i j, i ≠ j → ¬ (calls i).SamePlayer (calls j)) (service : Service Memory) :
    (∀ i, ∃ enough, ∀ schedule : List ι, enough ≤ schedule.count i →
      ((made calls service).turns Memory.backend schedule).Ended i) ∧
    ∀ schedule,
      (∀ i, ((made calls service).turns Memory.backend schedule).Ended i →
        (((made calls service).turns Memory.backend schedule).left i).ending? =
          some ((calls i).routine.run Memory.backend service).1) ∧
      ((∀ i, ((made calls service).turns Memory.backend schedule).Ended i) →
        ∀ order : List ι, order.Nodup → (∀ i, i ∈ order) →
          ((made calls service).turns Memory.backend schedule).service.state.Alike
            (Callers.inOrder Memory.backend (fun i => (calls i).routine) service order).state) := by
  have hslots : Function.Injective fun i => (calls i).slot := by
    intro i j hslot
    by_contra hne
    exact hplayers i j hne (samePlayer_of_slot_eq hslot)
  have hwithin : ∀ i, ((made calls service).left i).Within (calls i).slot fun _ => True :=
    fun i => (calls i).within_routine
  exact Callers.turns_commute hslots hwithin

/-- Experience for a player and the removal of another player's counters do not save an award to the
player from an overflow. -/
theorem turns_separate_overflow :
    let start := Service.on (Memory.opened (Shelf.empty.put (PlayerStats.slot "p")
      (PlayerStats.document "p" (NameMap.empty.insert "kills" 1)))) .collect
    let calls : Fin 3 → PlayerCall
      | 0 => .stats (.award "p" (NameMap.empty.insert "kills" 9223372036854775807))
      | 1 => .stats (.clear "q")
      | 2 => .reward "p" 50
    (∀ i j, i ≠ j → ¬ (calls i).SamePlayer (calls j)) ∧
      ∀ schedule, ((made calls start).turns Memory.backend schedule).Ended 0 →
        (((made calls start).turns Memory.backend schedule).left 0).ending? =
          some (.aborted .additionOverflow) := by
  intro start calls
  have hplayers : ∀ i j, i ≠ j → ¬ (calls i).SamePlayer (calls j) := by decide
  refine ⟨hplayers, ?_⟩
  intro schedule hended
  rw [((turns_separate hplayers start).2 schedule).1 0 hended]
  -- Alone, the award finds the counter and cannot add to it.
  have hload : (StatsService.loadOrBlank "p").Ends Memory.backend start.options start.state
      (.done ⟨"p", NameMap.empty.insert "kills" 1⟩) start.state [] :=
    ((Kind.structured PlayerStats.kind).ends_load PlayerStats.resolve_kind rfl
      (PlayerStats.decode_document "p" _ _)).bind (Routine.ends_pure _ _)
  have haward : (StatsService.award "p" (NameMap.empty.insert "kills" 9223372036854775807)).Ends
      Memory.backend start.options start.state (.aborted .additionOverflow) start.state [] :=
    hload.bind (Routine.ends_abort .additionOverflow _)
  exact congrArg some haward.bind_aborted.run_eq.1

end PlayerCall

end KeyedStore
