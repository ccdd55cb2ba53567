import KeyedStore.Proofs.Player.AwardPhases
import Mathlib.Data.Fintype.Card

/-!
# Awards to one player at the same time

Nothing is locked between the steps of an award. If others store after it has looked the record up,
what they have added is lost. But an award is lost as a whole: at every time the record is what some
of the awards have made of the one at the start.

- `Service.KeepsRecord`: what others may do between the steps of the awards;
- `standing_of_reaches`: the phases and the record after any schedule;
- `StatsService.reaches_keptWhole`: awards to one player are kept as a whole or lost as a whole.

## References

- SPEC_FULL.md, section 5, updates without a lock; section 10.9; section 10.7, `award_player_stats`
-/

namespace KeyedStore

open Memory PlayerStats

section

variable {ι : Type} {playerId : String} {initial : Counters} {increments : ι → NameMap Int64}

/-! ## Runs -/

/-- Between the steps of the awards others may do what they like, as long as nobody else writes the
record; but the counters of the record may come in another order. -/
def Service.KeepsRecord (playerId : String) (before after : Service Memory) : Prop :=
  after.state.isOpen = before.state.isOpen ∧
    (after.state.get? (slot playerId) = before.state.get? (slot playerId) ∨
      ∃ first second, NameMap.Alike first second ∧
        before.state.get? (slot playerId) = some (document playerId first) ∧
        after.state.get? (slot playerId) = some (document playerId second))

/-- Another order of the counters is the same record. -/
theorem PlayerStats.Holds.of_alike {counters : Counters} {first second : NameMap Int64}
    (h : Holds playerId (some (document playerId first)) counters) (halike : first.Alike second) :
    Holds playerId (some (document playerId second)) counters := by
  generalize hoccupant : some (document playerId first) = occupant at h
  cases h with
  | absent => exact absurd hoccupant (by simp)
  | present h =>
    rw [← Option.some.inj hoccupant] at h
    have hfirst := h {}
    rw [decode_document] at hfirst
    obtain rfl := congrArg PlayerStats.stats (Except.ok.inj hfirst)
    rw [Counters.of_eq_of_alike halike]
    exact .present (decode_document playerId second)

/-- What others do to the record does not change which awards it counts. -/
theorem Counted.other {writers : List ι} {before after : Service Memory} {awards : Finset ι}
    (h : Counted playerId initial increments writers before awards)
    (hkeeps : before.KeepsRecord playerId after) :
    Counted playerId initial increments writers after awards := by
  obtain ⟨hopen, hrecord⟩ := hkeeps
  -- The record is the same, or it is the same but for the order of its counters.
  rcases hrecord with hsame | ⟨first, second, halike, hfirst, hsecond⟩
  · refine ⟨hopen.trans h.isOpen, h.written, ?_, ?_⟩
    · rw [hsame]
      exact h.last
    · rw [hsame]
      exact h.holds
  · refine ⟨hopen.trans h.isOpen, h.written, ?_, ?_⟩
    · intro i hi
      refine ⟨(h.last i hi).1, ?_⟩
      rw [hsecond, Option.isSome_some]
    · have hholds := h.holds
      rw [hfirst] at hholds
      rw [hsecond]
      exact hholds.of_alike halike

variable (playerId increments)

/-- Awards to a player that are made at the same time, none of which has taken a step. -/
def StatsService.awarding (service : Service Memory) :
    Callers Memory fun _ : ι => NameMap Int64 :=
  ⟨fun i => StatsService.award playerId (increments i), service⟩

variable {playerId increments} [DecidableEq ι]

/-- After any schedule every award is in one of its phases, with as many steps behind it as it has
taken, and the record counts awards. -/
theorem standing_of_reaches (hawards : Countable playerId initial increments)
    {service : Service Memory} (hopen : service.state.isOpen = true)
    (hholds : Holds playerId (service.state.get? (slot playerId)) initial)
    {schedule writers : List ι} {now : Callers Memory fun _ : ι => NameMap Int64}
    (h : Callers.Reaches backend (Service.KeepsRecord playerId)
      (StatsService.awarding playerId increments service) schedule writers now) :
    (∃ awards, Counted playerId initial increments writers now.service awards) ∧
      ∀ i, ∃ phase, Award playerId initial increments i phase (5 - schedule.count i) (now.left i) ∧
        phase.Sound writers i := by
  induction h with
  | start =>
    constructor
    · refine ⟨∅, hopen, by simp, by simp, ?_⟩
      rw [Counters.plus_empty]
      exact hholds
    · intro i
      exact ⟨.looking, .award hawards i, List.not_mem_nil⟩
  | other _ hkeeps ih =>
    obtain ⟨⟨awards, hcounted⟩, hphases⟩ := ih
    exact ⟨⟨awards, hcounted.other hkeeps⟩, hphases⟩
  | @turn schedule writers now _ i ih =>
    obtain ⟨⟨awards, hcounted⟩, hphases⟩ := ih
    obtain ⟨phase, haward, hsound⟩ := hphases i
    obtain ⟨nextPhase, nextAwards, hnext, hnextSound, hnextCounted⟩ := haward.step hsound hcounted
    refine ⟨⟨nextAwards, hnextCounted⟩, ?_⟩
    intro j
    -- The award that has taken the step is in its next phase, and the others are where they were.
    by_cases hji : j = i
    · subst hji
      refine ⟨nextPhase, ?_, hnextSound⟩
      rw [Callers.left_turn_self, List.count_append, List.count_singleton_self, ← Nat.sub_sub]
      exact hnext
    · obtain ⟨otherPhase, hother, hotherSound⟩ := hphases j
      refine ⟨otherPhase, ?_, ?_⟩
      · rw [Callers.left_turn_of_ne _ _ hji, Callers.count_concat_of_ne hji]
        exact hother
      · split_ifs
        · exact hotherSound.concat hji
        · exact hotherSound

namespace StatsService

/-- Awards are kept as a whole or lost as a whole: nothing is counted of an award but all of it. -/
structure KeptWhole (playerId : String) (initial : Counters) (increments : ι → NameMap Int64)
    (writers : List ι) (now : Callers Memory fun _ : ι => NameMap Int64) : Prop where
  /-- As long as no award has been put, the record is the one at the start. -/
  untouched : writers = [] → Holds playerId (now.service.state.get? (slot playerId)) initial
  /-- Else there is a record, and its counters are those at the start with some of the awards that
  have been put, the last of them included. -/
  kept : ∀ last, writers.getLast? = some last → ∃ awards document stats, last ∈ awards ∧
    (∀ i ∈ awards, i ∈ writers) ∧ now.service.state.get? (slot playerId) = some document ∧
    (∀ options, Codec.decode kind options document playerId = .ok ⟨playerId, stats⟩) ∧
    Counters.of stats = initial.plus increments awards
  /-- An award that has ended has been put, and has answered with the counters at the start and some
  of the awards that have been put, itself included. -/
  answered : ∀ i outcome, (now.left i).ending? = some outcome → ∃ awards stats, i ∈ awards ∧
    (∀ j ∈ awards, j ∈ writers) ∧ outcome = .done stats ∧
    Counters.of stats = initial.plus increments awards

/-- At every time of every schedule the record is what some of the awards have made of it. -/
theorem keptWhole_of_reaches (hawards : Countable playerId initial increments)
    {service : Service Memory} (hopen : service.state.isOpen = true)
    (hholds : Holds playerId (service.state.get? (slot playerId)) initial)
    {schedule writers : List ι} {now : Callers Memory fun _ : ι => NameMap Int64}
    (h : Callers.Reaches backend (Service.KeepsRecord playerId)
      (awarding playerId increments service) schedule writers now) :
    (∀ i, 5 ≤ schedule.count i → now.Ended i) ∧
      KeptWhole playerId initial increments writers now := by
  obtain ⟨⟨awards, hcounted⟩, hphases⟩ := standing_of_reaches hawards hopen hholds h
  refine ⟨?_, ?_, ?_, ?_⟩
  · intro i hcount
    obtain ⟨phase, haward, -⟩ := hphases i
    rw [Nat.sub_eq_zero_of_le hcount] at haward
    exact haward.ended
  · rintro rfl
    -- What counts has been put, so nothing does.
    obtain rfl : awards = ∅ := by
      apply Finset.eq_empty_of_forall_notMem
      intro i hi
      exact List.not_mem_nil (hcounted.written i hi)
    have hrecord := hcounted.holds
    rw [Counters.plus_empty] at hrecord
    exact hrecord
  · intro last hlast
    obtain ⟨hmem, hsome⟩ := hcounted.last last hlast
    have hrecord := hcounted.holds
    generalize now.service.state.get? (slot playerId) = occupant at hsome hrecord
    generalize hcounters : initial.plus increments awards = counters at hrecord
    cases hrecord with
    | absent => exact absurd hsome (by simp)
    | present hdecode =>
      exact ⟨awards, _, _, hmem, hcounted.written, rfl, hdecode, hcounters.symm⟩
  · intro i outcome hending
    obtain ⟨phase, haward, hsound⟩ := hphases i
    obtain ⟨counted, stats, rfl, houtcome, hstats⟩ := haward.eq_done hending
    exact ⟨counted, stats, hsound.1, hsound.2, houtcome, hstats⟩

/-! ## Awards that lose the record -/

/-- There is a document for the player, and its counters cannot be read. -/
def Lost (playerId : String) (occupant : Option Document) : Prop :=
  ∃ document, occupant = some document ∧
    ∀ options, ∃ error, Codec.decode kind options document playerId = .error error ∧
      error.kind = .serialization

omit [DecidableEq ι] in
/-- An award that adds nothing puts the counters again that it has loaded. If they are misread, the
record is lost. -/
theorem ends_award_of_misread {memory : Memory} {occupant : Document} {stats : NameMap Int64}
    (hne : playerId ≠ "") (hget : memory.get? (slot playerId) = some occupant)
    (hdecode : ∀ options, Codec.decode kind options occupant playerId = .ok ⟨playerId, stats⟩)
    (hmisread : Misread stats) {nothing : NameMap Int64} (hnothing : Counters.of nothing = .empty)
    (options : CodecOptions) :
    ∃ sums after, (award playerId nothing).Ends backend options memory (.done sums) after [] ∧
      Lost playerId (after.get? (slot playerId)) := by
  have hload : (loadOrBlank playerId).Ends backend options memory (.done ⟨playerId, stats⟩) memory
      [] :=
    ((Kind.structured kind).ends_load resolve_kind hget (hdecode options)).bind
      (Routine.ends_pure _ memory)
  have hnone : ∀ name, nothing.get? name = none := by
    intro name
    exact Option.map_eq_none_iff.mp (congrFun hnothing name)
  rcases add_cases ⟨playerId, stats⟩ nothing with ⟨⟨name, n, hname, -⟩, -⟩ | ⟨-, sums, hadd, hsums⟩
  · -- Nothing overflows if nothing is added.
    exact absurd hname (by simp [hnone])
  · have hsame : Counters.of stats = Counters.of sums := by
      rw [hsums]
      funext name
      rw [Counters.add, hnone]
    obtain ⟨lost, hencode, hlost⟩ :=
      exists_encode_of_misread (hmisread.of_eq hsame) hne options
    obtain ⟨shelf, hstate, -⟩ := exists_shelf_of_get? hget
    have hopen : memory.isOpen = true := by rw [hstate, isOpen]
    obtain ⟨after, hstore, -, hput⟩ :=
      (Kind.structured kind).ends_store hopen (congrArg Outcome.ofExcept hencode)
    refine ⟨sums, after, hload.bind ?_, lost, ?_, hlost⟩
    · simp only [hadd]
      exact hstore.bind (Routine.ends_pure _ after)
    · rw [hput]
      exact if_pos rfl

/-- So the record is lost when such an award is let alone. -/
theorem exists_reaches_loss (hne : playerId ≠ "") {service : Service Memory}
    (hholds : Holds playerId (service.state.get? (slot playerId)) initial) {i : ι}
    (hnothing : Counters.of (increments i) = .empty) {stats : NameMap Int64}
    (hstats : Counters.of stats = initial) (hmisread : Misread stats) :
    ∃ schedule writers now, Callers.Reaches backend (Service.KeepsRecord playerId)
        (awarding playerId increments service) schedule writers now ∧
      now.Ended i ∧ (∀ j, j ≠ i → now.left j = award playerId (increments j)) ∧
      Lost playerId (now.service.state.get? (slot playerId)) := by
  generalize hget : service.state.get? (slot playerId) = occupant at hholds
  cases hholds with
  | absent =>
    -- There is no counter at the start, and misread counters are one.
    obtain ⟨name, n, -, hpairs⟩ := hmisread.exists_pairs
    have hnone := congrFun hstats name
    rw [Counters.of, NameMap.get?, hpairs, Pairs.get?, if_pos rfl] at hnone
    exact absurd hnone (by simp [Counters.empty])
  | present hdecode =>
    have hmisreadFound := hmisread.of_eq hstats
    obtain ⟨sums, after, hends, hlost⟩ :=
      ends_award_of_misread hne hget hdecode hmisreadFound hnothing service.options
    -- The award is let alone until it has ended.
    obtain ⟨schedule, hservice, hended, hothers⟩ := Callers.exists_schedule_inOrder backend
      (List.nodup_singleton i) (awarding playerId increments service) fun _ _ => rfl
    obtain ⟨writers, hreaches⟩ := (awarding playerId increments service).exists_reaches_turns
      backend (Service.KeepsRecord playerId) schedule
    refine ⟨schedule, writers, _, hreaches, hended i (List.mem_singleton_self i), ?_, ?_⟩
    · intro j hj
      exact hothers j (List.mem_singleton.not.mpr hj)
    · obtain ⟨-, hstate, -⟩ := hends.run_eq
      rw [← hstate] at hlost
      rw [hservice]
      exact hlost

/-- Of awards to one player that are made at the same time, each is kept as a whole or lost as a
whole, whatever the order of the steps and whatever others do in between: every award ends after at
most five steps of its own, with the counters at the start and some awards, itself included; and
once an award has been put, the record counts some awards, the last that has been put included. The
only exception is an award that adds nothing to counters that are misread: it loses the record. -/
theorem reaches_keptWhole (hne : playerId ≠ "")
    (hundollared : ∀ i, (Counters.of (increments i)).Undollared)
    (hfits : initial.AllFit increments) {service : Service Memory}
    (hopen : service.state.isOpen = true)
    (hholds : Holds playerId (service.state.get? (slot playerId)) initial) :
    ((∀ i, Counters.of (increments i) = .empty →
        ∀ stats, Counters.of stats = initial → ¬ Misread stats) →
      ∀ schedule writers now, Callers.Reaches backend (Service.KeepsRecord playerId)
          (awarding playerId increments service) schedule writers now →
        (∀ i, 5 ≤ schedule.count i → now.Ended i) ∧
          KeptWhole playerId initial increments writers now) ∧
    ∀ i, Counters.of (increments i) = .empty →
      ∀ stats, Counters.of stats = initial → Misread stats →
        ∃ schedule writers now, Callers.Reaches backend (Service.KeepsRecord playerId)
            (awarding playerId increments service) schedule writers now ∧
          now.Ended i ∧ (∀ j, j ≠ i → now.left j = award playerId (increments j)) ∧
          Lost playerId (now.service.state.get? (slot playerId)) := by
  constructor
  · intro hkept schedule writers now hreaches
    have hawards : Countable playerId initial increments := ⟨hne, hundollared, hfits, hkept⟩
    exact keptWhole_of_reaches hawards hopen hholds hreaches
  · intro i hnothing stats hstats hmisread
    exact exists_reaches_loss hne hholds hnothing hstats hmisread

end StatsService

end

namespace StatsService

/-- Two awards of five kills, and one that adds nothing to misread counters. Whatever the order of
the steps, the record has five or ten kills in the end; the other award loses its record. -/
theorem reaches_keptWhole_kills :
    let kills := NameMap.empty.insert "kills" 5
    let misread := Memory.opened (Shelf.empty.put (slot "p")
      (document "p" (NameMap.empty.insert "$date" 5)))
    (∀ schedule writers now, Callers.Reaches backend (Service.KeepsRecord "p")
        (awarding "p" (fun _ : Bool => kills) (.on .fresh .collect)) schedule writers now →
      5 ≤ schedule.count true → 5 ≤ schedule.count false →
        ∃ document stats, now.service.state.get? (slot "p") = some document ∧
          (∀ options, Codec.decode kind options document "p" = .ok ⟨"p", stats⟩) ∧
          (Counters.of stats "kills" = some 5 ∨ Counters.of stats "kills" = some 10)) ∧
    ∃ schedule writers now, Callers.Reaches backend (Service.KeepsRecord "p")
        (awarding "p" (fun _ : Unit => .empty) (.on misread .collect)) schedule writers now ∧
      now.Ended () ∧ Lost "p" (now.service.state.get? (slot "p")) := by
  intro kills misread
  have hplayer : "p" ≠ "" := by decide
  constructor
  · have hkills : ∀ name, Counters.of kills name = if name = "kills" then some 5 else none :=
      Counters.of_insert .empty "kills" 5
    have hundollared : ∀ _ : Bool, (Counters.of kills).Undollared := by decide
    have hcard : ∀ awards : Finset Bool, awards.card ≤ 2 := Finset.card_le_univ
    have hfits : Counters.empty.AllFit fun _ : Bool => kills := by
      intro awards name
      have hsmall := hcard awards
      rw [Counters.Fits, Counters.empty, Option.getD_none, Counters.total, Finset.sum_const, hkills,
        nsmul_eq_mul]
      split_ifs
      · rw [Option.getD_some]
        omega
      · rw [Option.getD_none]
        omega
    have hkept : ∀ _ : Bool, Counters.of kills = .empty →
        ∀ stats, Counters.of stats = .empty → ¬ Misread stats := by
      intro _ hnothing
      exact absurd (congrFun hnothing "kills") (by decide)
    obtain ⟨hwhole, -⟩ := reaches_keptWhole hplayer hundollared hfits
      (show (Service.on Memory.fresh .collect).state.isOpen = true from rfl) .absent
    intro schedule writers now hreaches hfirst hsecond
    obtain ⟨hended, huntouched, hrecord, hanswered⟩ := hwhole hkept schedule writers now hreaches
    -- Both awards have ended, so one of them has been put last.
    obtain ⟨outcome, houtcome⟩ := hended true hfirst
    obtain ⟨put, -, hmem, hput, -⟩ := hanswered true outcome houtcome
    have hlast := List.getLast?_eq_some_getLast (List.ne_nil_of_mem (hput true hmem))
    obtain ⟨awards, document, stats, hcounted, -, hget, hdecode, hstats⟩ := hrecord _ hlast
    refine ⟨document, stats, hget, hdecode, ?_⟩
    have hone : 0 < awards.card := Finset.card_pos.mpr ⟨_, hcounted⟩
    have htwo := hcard awards
    have hsum : Counters.of stats "kills" = some (awards.card * 5 : Int) := by
      rw [hstats, Counters.plus, if_pos ⟨_, hcounted, by decide⟩, Counters.total, Finset.sum_const,
        nsmul_eq_mul]
      exact congrArg some (Int.zero_add _)
    rw [hsum, Option.some.injEq, Option.some.injEq]
    omega
  · have hdollar : Misread (NameMap.empty.insert "$date" 5) := .inl ⟨5, rfl⟩
    have hundollared : ∀ i : Unit,
        (Counters.of ((fun _ : Unit => NameMap.empty) i)).Undollared :=
      fun _ => Counters.undollared_empty
    obtain ⟨-, hloss⟩ := reaches_keptWhole hplayer hundollared
      (Counters.allFit_nothing (NameMap.empty.insert "$date" 5))
      (show (Service.on misread .collect).state.isOpen = true from rfl)
      (.present (decode_document "p" (NameMap.empty.insert "$date" 5)))
    obtain ⟨schedule, writers, now, hreaches, hended, -, hlost⟩ := hloss () rfl _ rfl hdollar
    exact ⟨schedule, writers, now, hreaches, hended, hlost⟩

/-- It is not true of all awards that they are kept as a whole or lost as a whole. -/
theorem not_forall_reaches_keptWhole :
    ¬ ∀ (ι : Type) (_ : DecidableEq ι) (playerId : String) (initial : Counters)
      (increments : ι → NameMap Int64) (service : Service Memory), playerId ≠ "" →
      (∀ i, (Counters.of (increments i)).Undollared) → initial.AllFit increments →
      service.state.isOpen = true →
      Holds playerId (service.state.get? (slot playerId)) initial →
        ∀ schedule writers now, Callers.Reaches backend (Service.KeepsRecord playerId)
            (awarding playerId increments service) schedule writers now →
          KeptWhole playerId initial increments writers now := by
  intro h
  let misread := Memory.opened (Shelf.empty.put (slot "p")
    (document "p" (NameMap.empty.insert "$date" 5)))
  let nothing (_ : Unit) : NameMap Int64 := .empty
  have hplayer : "p" ≠ "" := by decide
  have hnothing : Counters.of (nothing ()) = .empty := rfl
  have hholds : Holds "p" ((Service.on misread .collect).state.get? (slot "p"))
      (Counters.of (NameMap.empty.insert "$date" 5)) := .present (decode_document "p" _)
  -- A single award that adds nothing is let alone.
  obtain ⟨schedule, writers, now, hreaches, ⟨outcome, hending⟩, -, lost, hget, hlost⟩ :=
    exists_reaches_loss hplayer hholds hnothing rfl (.inl ⟨5, rfl⟩)
  obtain ⟨-, hkept, hanswered⟩ := h Unit _ "p" _ nothing (.on misread .collect) hplayer
    (fun _ => Counters.undollared_empty) (Counters.allFit_nothing _) rfl hholds schedule writers now
    hreaches
  obtain ⟨awards, -, hmem, hput, -⟩ := hanswered () outcome hending
  obtain ⟨-, document, stats, -, -, hdocument, hdecode, -⟩ :=
    hkept _ (List.getLast?_eq_some_getLast (List.ne_nil_of_mem (hput () hmem)))
  obtain rfl : lost = document := Option.some.inj (hget.symm.trans hdocument)
  obtain ⟨error, herror, -⟩ := hlost {}
  exact absurd (herror.symm.trans (hdecode {})) (by simp)

end StatsService

end KeyedStore
