import KeyedStore.Proofs.Player.PartialSums
import KeyedStore.Proofs.Storage.Interleaving

/-!
# The phases of an award

An award looks the record of its player up, adds its increments and puts the sums. What it puts
counts the awards that the record has counted when it was looked up, and the award itself. So much
is known of an award among others at any time: which awards it is going to count, and how many steps
it has left at most.

- `award_eq`, `lookedUp_some`, `store_eq`: an award as its steps;
- `Award`: what is left of an award in one of its phases;
- `Counted`: the awards that the record counts;
- `Award.step`: what a step of an award does to its phase and to the awards that the record counts.

## References

- SPEC_FULL.md, section 5, updates without a lock; section 10.7, `award_player_stats`
-/

namespace KeyedStore

open Memory PlayerStats

/-! ## What is left of an award -/

namespace StatsService

/-- What is left of a load after the record has been looked up. -/
def lookedUp (playerId : String) (answer : Except StoreError (Option Document)) :
    Routine (Option PlayerStats) :=
  Facade.settle "load_structured" ⟨"PlayerStatsData", "player_stats", "playerId"⟩ playerId none do
    match ← Routine.ofExcept answer with
    | none => pure none
    | some document =>
      let options ← .codec
      let record ← .ofExcept (Codec.decode kind options document playerId)
      pure (some record)

/-- What is left of a store after the record has been put. -/
def hasPut (playerId : String) (answer : Except StoreError Unit) : Routine Unit :=
  Facade.settle "store_structured" ⟨"PlayerStatsData", "player_stats", "playerId"⟩ playerId () do
    Routine.ofExcept answer
    Facade.info ("💾 [DataStorage] 저장 완료: collection=" ++ "player_stats" ++ ", key=" ++ playerId)

/-- What is left of an award after the record has been loaded. -/
def conclude (increments : NameMap Int64) (record : PlayerStats) : Routine (NameMap Int64) :=
  match record.add increments with
  | .error cause => .abort cause
  | .ok changed => do
    Facade.store kind changed
    return changed.stats

/-- An award looks the record up first. -/
theorem award_eq (playerId : String) (increments : NameMap Int64) :
    award playerId increments = .call (.find (slot playerId)) fun answer =>
      (lookedUp playerId answer).bind fun found =>
        conclude increments (found.getD (.blank playerId)) := by
  rw [award, loadOrBlank, Routine.bind_assoc]
  rfl

/-- A record that is looked up and can be decoded is read whatever the options are. -/
theorem lookedUp_some {playerId : String} {document : Document} {record : PlayerStats}
    (h : ∀ options, Codec.decode kind options document playerId = .ok record) :
    lookedUp playerId (.ok (some document)) = .options fun _ => .done (some record) := by
  have hrest : lookedUp playerId (.ok (some document)) = .options fun options =>
      Facade.settle "load_structured" ⟨"PlayerStatsData", "player_stats", "playerId"⟩ playerId none
        ((Routine.ofExcept (Codec.decode kind options document playerId)).bind fun record =>
          pure (some record)) := rfl
  rw [hrest]
  simp only [h]
  rfl

/-- A record that is not misread is put as the document of its counters. -/
theorem store_eq {playerId : String} {stats : NameMap Int64} (hne : playerId ≠ "")
    (h : ¬ Misread stats) :
    Facade.store kind ⟨playerId, stats⟩ = .options fun _ =>
      .call (.upsert (slot playerId) (document playerId stats)) (hasPut playerId) := by
  have hrest : Facade.store kind ⟨playerId, stats⟩ = .options fun options =>
      Facade.settle "store_structured" ⟨"PlayerStatsData", "player_stats", "playerId"⟩ playerId ()
        ((Routine.ofLogged (Codec.encode kind options ⟨playerId, stats⟩)).bind fun result =>
          (Routine.ofExcept result).bind fun encoded =>
            (Routine.upsert ⟨encoded.collection, encoded.key⟩ encoded.document).bind fun _ =>
              Facade.info ("💾 [DataStorage] 저장 완료: collection=" ++ encoded.collection ++
                ", key=" ++ encoded.key)) := rfl
  have hencode : ∀ options, Codec.encode kind options ⟨playerId, stats⟩ =
      ⟨[], .ok ⟨"player_stats", playerId, document playerId stats⟩⟩ := by
    intro options
    rw [← encode_eq_document h hne options, ← entries_encode hne stats options]
  rw [hrest]
  simp only [hencode]
  rfl

end StatsService

/-! ## Phases of an award -/

/-- The counters of a player that a slot holds: none at all if there is no document, and else those
that the document is decoded to. -/
inductive PlayerStats.Holds (playerId : String) : Option Document → Counters → Prop where
  /-- There is no record. -/
  | absent : Holds playerId none .empty
  /-- There is a record that can be read. -/
  | present {document : Document} {stats : NameMap Int64}
    (h : ∀ options, Codec.decode kind options document playerId = .ok ⟨playerId, stats⟩) :
    Holds playerId (some document) (.of stats)

/-- Awards to a player that can be counted together: whichever of them are added to the counters at
the start, the sums can be stored and loaded again. -/
structure Countable {ι : Type} (playerId : String) (initial : Counters)
    (increments : ι → NameMap Int64) : Prop where
  /-- The player has a name. -/
  named : playerId ≠ ""
  /-- No award names a counter with a dollar sign. -/
  undollared : ∀ i, (Counters.of (increments i)).Undollared
  /-- All sums fit. -/
  fits : initial.AllFit increments
  /-- If an award adds nothing, the counters at the start are not misread. -/
  kept : ∀ i, Counters.of (increments i) = .empty →
    ∀ stats, Counters.of stats = initial → ¬ Misread stats

/-- How far an award has come. -/
inductive AwardPhase (ι : Type) where
  /-- It is going to look the record up. -/
  | looking
  /-- It is going to put a record that counts some awards. -/
  | storing (awards : Finset ι)
  /-- It has put it. -/
  | finished (awards : Finset ι)

section

variable {ι : Type} [DecidableEq ι] (playerId : String) (initial : Counters)
  (increments : ι → NameMap Int64)

/-- A routine is what is left of an award in a phase, and takes at most so many steps. -/
inductive Award (i : ι) : AwardPhase ι → Nat → Routine (NameMap Int64) → Prop where
  /-- The next step reads the options of the codec. -/
  | options {phase : AwardPhase ι} {n : Nat} {next : CodecOptions → Routine (NameMap Int64)}
    (h : ∀ options, Award i phase n (next options)) : Award i phase (n + 1) (.options next)
  /-- The next step tells the outside something. -/
  | emit {phase : AwardPhase ι} {n : Nat} {event : Event} {next : Routine (NameMap Int64)}
    (h : Award i phase n next) : Award i phase (n + 1) (.emit event next)
  /-- The next step looks the record up. Whichever other awards the record counts, the award goes on
  from their counters. -/
  | find {n : Nat} {next : Except StoreError (Option Document) → Routine (NameMap Int64)}
    (h : ∀ (awards : Finset ι) (occupant : Option Document), i ∉ awards →
      Holds playerId occupant (initial.plus increments awards) →
        Award i (.storing (insert i awards)) n (next (.ok occupant))) :
    Award i .looking (n + 1) (.call (.find (slot playerId)) next)
  /-- The next step puts the record. -/
  | put {awards : Finset ι} {n : Nat} {stats : NameMap Int64}
    {next : Except StoreError Unit → Routine (NameMap Int64)}
    (hstats : Counters.of stats = initial.plus increments awards)
    (h : Award i (.finished awards) n (next (.ok ()))) :
    Award i (.storing awards) (n + 1)
      (.call (.upsert (slot playerId) (document playerId stats)) next)
  /-- The award has ended with the counters that it has put. -/
  | done {awards : Finset ι} {n : Nat} {stats : NameMap Int64}
    (hstats : Counters.of stats = initial.plus increments awards) :
    Award i (.finished awards) n (.done stats)

variable {playerId initial increments}

/-- What an award does with a record that counts some other awards. -/
theorem Award.conclude (hawards : Countable playerId initial increments)
    {i : ι} {awards : Finset ι} (hi : i ∉ awards) {record : PlayerStats}
    (hplayer : record.playerId = playerId)
    (hrecord : Counters.of record.stats = initial.plus increments awards) (n : Nat) :
    Award playerId initial increments i (.storing (insert i awards)) (n + 3)
      (StatsService.conclude (increments i) record) := by
  rcases add_cases record (increments i) with ⟨hover, -⟩ | ⟨-, sums, hadd, hsums⟩
  · -- The record counts awards, and the sums of awards fit.
    rw [hrecord] at hover
    exact absurd hover (hawards.fits.not_overflows hi)
  · rw [hrecord, ← Counters.plus_insert hi] at hsums
    have hmisread : ¬ Misread sums := not_misread_of_plus hawards.undollared hawards.kept
      (Finset.mem_insert_self i awards) hsums
    simp only [StatsService.conclude, hadd, hplayer, StatsService.store_eq hawards.named hmisread]
    -- The three steps: the options of the codec, the record, a line of the log.
    refine .options ?_
    intro options
    apply Award.put hsums
    exact .emit (.done hsums)

/-- An award begins by looking the record up. -/
theorem Award.award (hawards : Countable playerId initial increments) (i : ι) :
    Award playerId initial increments i .looking 5
      (StatsService.award playerId (increments i)) := by
  rw [StatsService.award_eq]
  apply Award.find
  intro awards occupant hi hholds
  generalize hcounters : initial.plus increments awards = counters at hholds
  cases hholds with
  | absent =>
    -- A player without a record has a blank one, and its counters are those of no record.
    have hblank : Counters.of (blank playerId).stats = initial.plus increments awards :=
      hcounters.symm
    exact conclude hawards hi rfl hblank 1
  | present h =>
    rw [StatsService.lookedUp_some h]
    refine .options ?_
    intro options
    exact conclude hawards hi rfl hcounters.symm 0

/-- An award ends at the latest when it has no step left. -/
theorem Award.ended {i : ι} {phase : AwardPhase ι} {routine : Routine (NameMap Int64)}
    (h : Award playerId initial increments i phase 0 routine) :
    ∃ outcome, routine.ending? = some outcome := by
  cases h with
  | done _ => exact ⟨_, rfl⟩

/-- An award that has ended has ended with the counters of the awards that it counts. -/
theorem Award.eq_done {i : ι} {phase : AwardPhase ι} {n : Nat} {routine : Routine (NameMap Int64)}
    (h : Award playerId initial increments i phase n routine) {outcome : Outcome (NameMap Int64)}
    (hending : routine.ending? = some outcome) :
    ∃ awards stats, phase = .finished awards ∧ outcome = .done stats ∧
      Counters.of stats = initial.plus increments awards := by
  cases h with
  | done hstats => exact ⟨_, _, rfl, (Option.some.inj hending).symm, hstats⟩
  | options _ | emit _ | find _ | put _ _ => exact absurd hending (by simp [Routine.ending?])

/-! ## Steps -/

/-- An open backend finds what is in the slot. -/
theorem Routine.step_find {α : Type} {service : Service Memory}
    (hopen : service.state.isOpen = true) (slot : Slot)
    (next : Except StoreError (Option Document) → Routine α) :
    (Routine.call (.find slot) next).step backend service =
      (next (.ok (service.state.get? slot)), service) := by
  obtain ⟨memory, options, sink, reports, log⟩ := service
  obtain ⟨shelf, rfl⟩ := exists_shelf_of_isOpen hopen
  rfl

/-- An open backend puts a document into the slot. -/
theorem Routine.exists_step_upsert {α : Type} {service : Service Memory}
    (hopen : service.state.isOpen = true) (slot : Slot) (document : Document)
    (next : Except StoreError Unit → Routine α) :
    ∃ after, (Routine.call (.upsert slot document) next).step backend service =
        (next (.ok ()), service.movedTo after) ∧
      ChangesOnly slot (some document) service.state after := by
  obtain ⟨memory, options, sink, reports, log⟩ := service
  obtain ⟨shelf, rfl⟩ := exists_shelf_of_isOpen hopen
  exact ⟨_, rfl, changesOnly_put shelf slot document⟩

/-- What a phase means for an award among others, some of which have put their records. -/
def AwardPhase.Sound (writers : List ι) (i : ι) : AwardPhase ι → Prop
  | .looking => i ∉ writers
  | .storing awards => i ∈ awards ∧ i ∉ writers ∧ ∀ j ∈ awards, j ≠ i → j ∈ writers
  | .finished awards => i ∈ awards ∧ ∀ j ∈ awards, j ∈ writers

omit [DecidableEq ι] in
/-- What a phase means does not change when another award puts its record. -/
theorem AwardPhase.Sound.concat {phase : AwardPhase ι} {writers : List ι} {i j : ι}
    (h : phase.Sound writers i) (hne : i ≠ j) : phase.Sound (writers ++ [j]) i := by
  have hmem : ∀ k ∈ writers, k ∈ writers ++ [j] := fun _ => List.mem_append_left [j]
  have hnotMem : i ∉ writers → i ∉ writers ++ [j] := by
    intro hi
    simp [hi, hne]
  cases phase with
  | looking => exact hnotMem h
  | storing awards =>
    obtain ⟨hself, hi, hothers⟩ := h
    exact ⟨hself, hnotMem hi, fun k hk hki => hmem k (hothers k hk hki)⟩
  | finished awards =>
    obtain ⟨hself, hall⟩ := h
    exact ⟨hself, fun k hk => hmem k (hall k hk)⟩

variable (playerId initial increments)

/-- The record counts some of the awards that have been put, and the last of them. -/
structure Counted (writers : List ι) (service : Service Memory) (awards : Finset ι) : Prop where
  /-- The backend is open. -/
  isOpen : service.state.isOpen = true
  /-- What counts has been put. -/
  written : ∀ i ∈ awards, i ∈ writers
  /-- What has been put last counts, and there is a record. -/
  last : ∀ i, writers.getLast? = some i →
    i ∈ awards ∧ (service.state.get? (slot playerId)).isSome = true
  /-- The counters of the record are those at the start with the awards. -/
  holds : Holds playerId (service.state.get? (slot playerId)) (initial.plus increments awards)

variable {playerId initial increments}

/-- A step of an award leads to a phase again, and to a record that counts awards. -/
theorem Award.step {i : ι} {phase : AwardPhase ι} {n : Nat} {routine : Routine (NameMap Int64)}
    (h : Award playerId initial increments i phase n routine) {writers : List ι}
    (hsound : phase.Sound writers i) {service : Service Memory} {awards : Finset ι}
    (hcounted : Counted playerId initial increments writers service awards) :
    ∃ phase awards, Award playerId initial increments i phase (n - 1)
        (routine.step backend service).1 ∧
      phase.Sound (if routine.putsNext then writers ++ [i] else writers) i ∧
      Counted playerId initial increments (if routine.putsNext then writers ++ [i] else writers)
        (routine.step backend service).2 awards := by
  obtain ⟨hopen, hwritten, hlast, hholds⟩ := hcounted
  cases h with
  | options h => exact ⟨_, awards, h _, hsound, hopen, hwritten, hlast, hholds⟩
  | @emit _ _ event _ h =>
    refine ⟨_, awards, h, hsound, ?_⟩
    rw [← service.note_state event] at hopen hlast hholds
    exact ⟨hopen, hwritten, hlast, hholds⟩
  | find h =>
    -- The award itself has not been put, so the record does not count it.
    have hi : i ∉ awards := by
      intro hi
      exact hsound (hwritten i hi)
    have hothers : ∀ j ∈ insert i awards, j ≠ i → j ∈ writers := by
      intro j hj hne
      exact hwritten j (Finset.mem_of_mem_insert_of_ne hj hne)
    rw [Routine.step_find hopen]
    exact ⟨.storing (insert i awards), awards, h awards _ hi hholds,
      ⟨Finset.mem_insert_self i awards, hsound, hothers⟩, hopen, hwritten, hlast, hholds⟩
  | @put counted _ stats _ hstats h =>
    -- Whatever the record has counted, it now counts what the award has counted.
    obtain ⟨hi, -, hothers⟩ := hsound
    have hall : ∀ j ∈ counted, j ∈ writers ++ [i] := by
      intro j hj
      by_cases hji : j = i
      · simp [hji]
      · exact List.mem_append_left [i] (hothers j hj hji)
    obtain ⟨after, hstep, hopenAfter, hget⟩ :=
      Routine.exists_step_upsert hopen (slot playerId) (document playerId stats) _
    have hput : after.get? (slot playerId) = some (document playerId stats) := by
      rw [hget, if_pos rfl]
    rw [hstep]
    refine ⟨.finished counted, counted, h, ⟨hi, hall⟩, hopenAfter.trans hopen, hall, ?_, ?_⟩
    · intro j hj
      obtain rfl : i = j := Option.some.inj (List.getLast?_concat.symm.trans hj)
      exact ⟨hi, congrArg Option.isSome hput⟩
    · rw [Service.movedTo, hput, ← hstats]
      exact .present (decode_document playerId stats)
  | done hstats => exact ⟨_, awards, .done hstats, hsound, hopen, hwritten, hlast, hholds⟩

end

end KeyedStore
