import KeyedStore.Proofs.Player.Board
import KeyedStore.Proofs.Player.StatsNames
import KeyedStore.Proofs.Storage.Endings

/-!
# The counters of players as a board

On an open backend in memory the counters of all players are a board. Each call of the service
answers and changes the board as `Board.play` says, and so does a run of calls. The maps of a call
may be visited in any order, and so may the counters of a player whenever they are written: neither
has a part in any answer.

- `Memory.Keeps`: the documents of the players are those of a board;
- `Keeps.ends_routine`: what a call answers and what it leaves behind;
- `Plays`: the runs of calls, with maps that are visited in any order;
- `plays_board`: every run is the run of the board.

## References

- SPEC_FULL.md, section 10.7, the operations on statistics
-/

namespace KeyedStore

open Json Memory

namespace PlayerStats

/-- The slot of a player. -/
def slot (playerId : String) : Slot :=
  ⟨"player_stats", playerId⟩

/-- The document that holds the counters of a player. -/
def document (playerId : String) (stats : NameMap Int64) : Document :=
  [(identityField, .string playerId), ("stats", .document (counters stats.pairs))]

/-- The document of a player tells the counters in it. -/
theorem eq_of_document_eq {playerId other : String} {first second : NameMap Int64}
    (h : document playerId first = document other second) : first = second := by
  have hcounters : counters first.pairs = counters second.pairs := by
    simp only [document, List.cons.injEq, Prod.mk.injEq, Bson.document.injEq] at h
    exact h.2.1.2
  -- A counter can be told from its integer of 64 bits.
  have hpairs : first.pairs = second.pairs := by
    refine List.map_injective_iff.mpr ?_ hcounters
    rintro ⟨name, n⟩ ⟨other, m⟩ heq
    simp only [Prod.mk.injEq, Bson.int64.injEq] at heq
    rw [heq.1, heq.2]
  obtain ⟨pairs, hdistinct⟩ := first
  exact (NameMap.mk.injEq ..).mpr hpairs

/-- Counters without dollar signs are not misread. -/
theorem not_misread_of_undollared {stats : NameMap Int64} (h : (Counters.of stats).Undollared) :
    ¬ Misread stats := by
  have habsent : ∀ name n, HasDollar name → stats.pairs ≠ [(name, n)] := by
    intro name n hname hpairs
    refine h name ?_ hname
    rw [Counters.of, NameMap.get?, hpairs, Pairs.get?, if_pos rfl]
    simp
  rintro (⟨n, hdate⟩ | hmin | hmax)
  · exact habsent _ _ (by decide) hdate
  · exact habsent _ _ (by decide) hmin
  · exact habsent _ _ (by decide) hmax

variable {playerId : String} {stats : NameMap Int64}

/-- Counters that are not misread are stored in their own document. -/
theorem encode_eq_document (h : ¬ Misread stats) (hne : playerId ≠ "") (options : CodecOptions) :
    (Codec.encode kind options ⟨playerId, stats⟩).value =
      .ok ⟨"player_stats", playerId, document playerId stats⟩ := by
  rw [encode_eq hne, read_counters h]
  rfl

/-- No field of a record is left out because of its name, so nothing is written to the log. -/
theorem entries_encode (hne : playerId ≠ "") (stats : NameMap Int64) (options : CodecOptions) :
    (Codec.encode kind options ⟨playerId, stats⟩).entries = [] := by
  have hkey : Codec.requireKey ⟨"PlayerStatsData", "player_stats", "playerId"⟩
      (kind.key ⟨playerId, stats⟩) = .ok playerId := if_neg hne
  have hprepare : Codec.prepare kind options ⟨playerId, stats⟩ =
      .ok ⟨⟨"PlayerStatsData", "player_stats", "playerId"⟩, playerId,
        [("stats", statsJson stats)]⟩ := by
    obtain ⟨omitNullFields, diagnosticLimit⟩ := options
    simp only [Codec.prepare, resolve_kind, hkey, bind, Except.bind]
    cases omitNullFields <;> rfl
  rw [Codec.encode, hprepare]
  rfl

/-- The document of any counters can be decoded, also of those that would be misread. -/
theorem decode_document (playerId : String) (stats : NameMap Int64) (options : CodecOptions) :
    Codec.decode kind options (document playerId stats) playerId = .ok ⟨playerId, stats⟩ := by
  -- The text shows the counters in their own order, and the key behind them.
  have htext : Codec.intermediate ⟨"PlayerStatsData", "player_stats", "playerId"⟩
      (document playerId stats) playerId =
        (Json.object [("stats", statsJson stats), ("playerId", .string playerId)]).render := by
    rw [document, Codec.intermediate_cons (by simp [Pairs.names]), Bson.pairsToJson, Bson.toJson,
      pairsToJson_counters]
    rfl
  have hlegible : LegiblePairs [("stats", statsJson stats), ("playerId", .string playerId)] := by
    refine ⟨legiblePairs_iff.mpr fun pair hpair => ?_, trivial, trivial⟩
    obtain ⟨⟨name, n⟩, -, rfl⟩ := List.mem_map.mp hpair
    exact (plain_int64 n).legible
  have hread : kind.read (.object [("stats", statsJson stats), ("playerId", .string playerId)]) =
      .ok ⟨playerId, stats⟩ := by
    refine Record.Fits.read_eq ?_ (by simp [Pairs.Distinct, Pairs.names])
    refine Record.Fits.there ?_ rfl (Shape.mapOf_map Shape.int64_whole stats) (some .empty)
    exact (Record.fits_of mk _).there rfl rfl none
  exact Codec.decode_of_shown options resolve_kind hlegible htext hread

end PlayerStats

/-! ## Documents of a board -/

/-- A slot holds what the board has for its player: no document if there is no record, and else a
document of the counters, in some order. -/
inductive KeepsRecord (playerId : String) : Option Document → Option Counters → Prop where
  /-- There is no record. -/
  | absent : KeepsRecord playerId none none
  /-- There is a record, and the player has a name. -/
  | present {stats : NameMap Int64} (hne : playerId ≠ "")
    (hundollared : (Counters.of stats).Undollared) :
    KeepsRecord playerId (some (PlayerStats.document playerId stats)) (some (.of stats))

/-- The documents of the players are those of a board, in an open backend whose other documents are
those at the start. -/
structure Memory.Keeps (start memory : Memory) (board : Board) : Prop where
  /-- The backend is open. -/
  isOpen : memory.isOpen = true
  /-- The slot of every player holds what the board has for the player. -/
  kept : ∀ playerId,
    KeepsRecord playerId (memory.get? (PlayerStats.slot playerId)) (board playerId)
  /-- No document of another collection has changed. -/
  others : ∀ slot : Slot, slot.collection ≠ "player_stats" → memory.get? slot = start.get? slot

/-- Documents after the counters of some players have been written in another order. -/
def Memory.Shuffled (before after : Memory) : Prop :=
  after.isOpen = before.isOpen ∧ ∀ slot, after.get? slot = before.get? slot ∨
    ∃ playerId first second, NameMap.Alike first second ∧ slot = PlayerStats.slot playerId ∧
      before.get? slot = some (PlayerStats.document playerId first) ∧
      after.get? slot = some (PlayerStats.document playerId second)

namespace KeepsRecord

open PlayerStats

variable {playerId : String} {occupant : Option Document} {record : Option Counters}

/-- Another order of the counters is the same record. -/
theorem of_alike {first second : NameMap Int64}
    (h : KeepsRecord playerId (some (document playerId first)) record)
    (halike : first.Alike second) :
    KeepsRecord playerId (some (document playerId second)) record := by
  generalize hdocument : some (document playerId first) = occupant at h
  cases h with
  | absent => exact absurd hdocument (by simp)
  | present hne hundollared =>
    obtain rfl := eq_of_document_eq (Option.some.inj hdocument)
    rw [Counters.of_eq_of_alike halike] at hundollared ⊢
    exact .present hne hundollared

/-- The counters of a record that is kept have no dollar signs. -/
theorem undollared_getD (h : KeepsRecord playerId occupant record) :
    (record.getD .empty).Undollared := by
  cases h with
  | absent => exact Counters.undollared_empty
  | present _ hundollared => exact hundollared

/-- Only a player with a name has a record. -/
theorem ne_of_some {counters : Counters} (h : KeepsRecord playerId occupant (some counters)) :
    playerId ≠ "" := by
  cases h with
  | present hne _ => exact hne

/-- There is no record of a player without a name. -/
theorem eq_none (h : KeepsRecord "" occupant record) : record = none := by
  cases h with
  | absent => rfl
  | present hne _ => exact absurd rfl hne

end KeepsRecord

namespace Memory.Keeps

open PlayerStats

variable {start memory after : Memory} {board : Board} {playerId : String}
  {stats : NameMap Int64} (options : CodecOptions)

/-- The record of one player changes. -/
theorem put (h : Keeps start memory board) {occupant : Option Document}
    {record : Option Counters} (hkept : KeepsRecord playerId occupant record)
    (hchanges : ChangesOnly (slot playerId) occupant memory after) :
    Keeps start after (board.put playerId record) := by
  obtain ⟨hopen, hget⟩ := hchanges
  refine ⟨hopen.trans h.isOpen, fun other => ?_, fun other hother => ?_⟩
  · -- The board and the backend change at the same place.
    rw [hget, Board.put]
    by_cases heq : other = playerId
    · subst heq
      rw [if_pos rfl, if_pos rfl]
      exact hkept
    · rw [if_neg fun hslot => heq (congrArg Slot.id hslot), if_neg heq]
      exact h.kept other
  · rw [hget, if_neg fun hslot => hother (congrArg Slot.collection hslot)]
    exact h.others other hother

/-- Another order of the counters is the same board. -/
theorem shuffled (h : Keeps start memory board) (hshuffled : memory.Shuffled after) :
    Keeps start after board := by
  obtain ⟨hopen, hget⟩ := hshuffled
  refine ⟨hopen.trans h.isOpen, fun playerId => ?_, fun other hother => ?_⟩
  · have hkept := h.kept playerId
    rcases hget (slot playerId) with hsame | ⟨other, first, second, halike, hslot, hfirst, hsecond⟩
    · rw [hsame]
      exact hkept
    · -- Only the order of the counters has changed.
      obtain rfl : playerId = other := congrArg Slot.id hslot
      rw [hfirst] at hkept
      rw [hsecond]
      exact hkept.of_alike halike
  · rcases hget other with hsame | ⟨playerId, -, -, -, rfl, -⟩
    · exact hsame.trans (h.others other hother)
    · exact absurd rfl hother

/-! ## Loading and storing records -/

/-- The record of a player is loaded if there is one. -/
theorem ends_load (h : Keeps start memory board) (playerId : String) :
    ∃ found, (Facade.load kind playerId).Ends backend options memory (.done found) memory [] ∧
      found.map (fun record => Counters.of record.stats) = board playerId ∧
      ∀ record ∈ found, record.playerId = playerId := by
  have hkept := h.kept playerId
  -- The cases of the record are those of the load.
  generalize hget : memory.get? (slot playerId) = occupant at hkept
  generalize board playerId = record at hkept ⊢
  cases hkept with
  | absent =>
    exact ⟨none, (Kind.structured kind).ends_load_of_vacant resolve_kind h.isOpen hget, rfl,
      by simp⟩
  | present hne hundollared =>
    exact ⟨some ⟨playerId, _⟩, (Kind.structured kind).ends_load resolve_kind hget
      (decode_document playerId _ options), rfl, by simp⟩

/-- A record is stored under the name of its player. -/
theorem ends_store (h : Keeps start memory board) (hne : playerId ≠ "")
    (hundollared : (Counters.of stats).Undollared) :
    ∃ after, (Facade.store kind ⟨playerId, stats⟩).Ends backend options memory (.done ()) after [] ∧
      Keeps start after (board.put playerId (some (.of stats))) := by
  have hencode := encode_eq_document (not_misread_of_undollared hundollared) hne options
  obtain ⟨after, hends, hchanges⟩ :=
    (Kind.structured kind).ends_store h.isOpen (congrArg Outcome.ofExcept hencode)
  exact ⟨after, hends, h.put (.present hne hundollared) hchanges⟩

/-- Nobody's record is refused. -/
theorem ends_store_nameless (stats : NameMap Int64) (memory : Memory) :
    (Facade.store kind ⟨"", stats⟩).Ends backend options memory
      (.failed (.emptyKey "PlayerStatsData" "playerId")) memory [] :=
  (Kind.structured kind).ends_store_of_failed
    (Kind.encode_of_refusedKey resolve_kind rfl) rfl

/-- The record of a player, or a blank one, has the counters that the board has. -/
theorem ends_loadOrBlank (h : Keeps start memory board) (playerId : String) :
    ∃ stats, (StatsService.loadOrBlank playerId).Ends backend options memory
        (.done ⟨playerId, stats⟩) memory [] ∧
      Counters.of stats = (board playerId).getD .empty := by
  obtain ⟨found, hends, hfound, hplayer⟩ := h.ends_load options playerId
  have hblank : (StatsService.loadOrBlank playerId).Ends backend options memory
      (.done (found.getD (.blank playerId))) memory [] :=
    hends.bind (Routine.ends_pure _ memory)
  rw [← hfound]
  cases found with
  | none => exact ⟨.empty, hblank, rfl⟩
  | some record =>
    obtain rfl := hplayer record rfl
    exact ⟨record.stats, hblank, rfl⟩

end Memory.Keeps

/-! ## Calls -/

/-- The routine of a call. -/
def StatsCall.routine : StatsCall → Routine (Option Counters)
  | .award playerId increments => do
    return some (.of (← StatsService.award playerId increments))
  | .set playerId stats => do
    StatsService.set playerId stats
    return none
  | .remove playerId names => do
    StatsService.remove playerId names
    return none
  | .clear playerId => do
    StatsService.clear playerId
    return none
  | .get playerId => do
    return some (.of (← StatsService.get playerId))

namespace Memory.Keeps

open PlayerStats Routine

variable {start memory : Memory} {board : Board} (options : CodecOptions)

/-- An award adds its increments and answers with the sums, or it changes nothing. -/
theorem ends_award (h : Keeps start memory board) (playerId : String) {increments : NameMap Int64}
    (hundollared : (Counters.of increments).Undollared) :
    ∃ after, (StatsCall.award playerId increments).routine.Ends backend options memory
        (board.play (.award playerId increments)).1 after [] ∧
      Keeps start after (board.play (.award playerId increments)).2 := by
  obtain ⟨stats, hload, hstats⟩ := h.ends_loadOrBlank options playerId
  rw [Board.play, ← hstats]
  rcases add_cases ⟨playerId, stats⟩ increments with ⟨hover, hadd⟩ | ⟨hover, sums, hadd, hsums⟩
  · -- Nothing is stored; and without a player there is no counter that could overflow.
    have hne : playerId ≠ "" := by
      rintro rfl
      rw [(h.kept "").eq_none, Option.getD_none] at hstats
      rw [hstats] at hover
      exact Counters.not_overflows_empty increments hover
    have haward : (StatsService.award playerId increments).Ends backend options memory
        (.aborted .additionOverflow) memory [] :=
      hload.bind (by simp only [hadd]; exact ends_abort _ memory)
    rw [if_neg hne, if_pos hover]
    exact ⟨memory, haward.bind_aborted, h⟩
  · by_cases hne : playerId = ""
    · -- The sums are there before the codec refuses the record of nobody.
      subst hne
      have haward : (StatsService.award "" increments).Ends backend options memory
          (.failed (.emptyKey "PlayerStatsData" "playerId")) memory [] :=
        hload.bind (by
          simp only [hadd]
          exact (ends_store_nameless options sums memory).bind_failed)
      rw [if_pos rfl]
      exact ⟨memory, haward.bind_failed, h⟩
    · -- With a name and without an overflow the sums are stored, and the board changes with them.
      have hundollaredSums : (Counters.of sums).Undollared := by
        rw [hsums, hstats]
        exact (h.kept playerId).undollared_getD.add hundollared
      obtain ⟨after, hstore, hkeeps⟩ := h.ends_store options hne hundollaredSums
      have haward : (StatsService.award playerId increments).Ends backend options memory
          (.done sums) after [] :=
        hload.bind (by simp only [hadd]; exact hstore.bind (ends_pure _ after))
      rw [if_neg hne, if_neg hover, ← hsums]
      exact ⟨after, haward.bind (ends_pure _ after), hkeeps⟩

/-- Setting replaces all counters of a player. -/
theorem ends_set (h : Keeps start memory board) (playerId : String) {stats : NameMap Int64}
    (hundollared : (Counters.of stats).Undollared) :
    ∃ after, (StatsCall.set playerId stats).routine.Ends backend options memory
        (board.play (.set playerId stats)).1 after [] ∧
      Keeps start after (board.play (.set playerId stats)).2 := by
  rw [Board.play]
  split_ifs with hne
  · rw [hne]
    exact ⟨memory, (ends_store_nameless options stats memory).bind_failed, h⟩
  · obtain ⟨after, hstore, hkeeps⟩ := h.ends_store options hne hundollared
    exact ⟨after, hstore.bind (ends_pure _ after), hkeeps⟩

/-- Removing takes exactly the named counters away and makes no record. -/
theorem ends_remove (h : Keeps start memory board) (playerId : String) (names : List String) :
    ∃ after, (StatsCall.remove playerId names).routine.Ends backend options memory
        (board.play (.remove playerId names)).1 after [] ∧
      Keeps start after (board.play (.remove playerId names)).2 := by
  obtain ⟨found, hload, hfound, hplayer⟩ := h.ends_load options playerId
  rw [Board.play, ← hfound]
  cases found with
  | none =>
    -- Without a record nothing is stored, so that there is none afterwards.
    have hremove : (StatsService.remove playerId names).Ends backend options memory (.done ())
        memory [] := hload.bind (ends_pure () memory)
    have hnone : board playerId = none := hfound.symm
    refine ⟨memory, hremove.bind (ends_pure _ memory), ?_⟩
    rw [Option.map_none, Option.map_none, Board.put_eq_self hnone]
    exact h
  | some record =>
    obtain ⟨playerId, stats⟩ := record
    obtain rfl := hplayer _ rfl
    have hkept := h.kept playerId
    rw [← hfound, Option.map_some] at hkept
    have hleft := Counters.of_foldl_erase names stats
    have hundollaredLeft : (Counters.of (names.foldl NameMap.erase stats)).Undollared := by
      rw [hleft]
      exact hkept.undollared_getD.without names
    obtain ⟨after, hstore, hkeeps⟩ := h.ends_store options hkept.ne_of_some hundollaredLeft
    have hremove : (StatsService.remove playerId names).Ends backend options memory (.done ())
        after [] := hload.bind hstore
    rw [hleft] at hkeeps
    exact ⟨after, hremove.bind (ends_pure _ after), hkeeps⟩

/-- What a call answers, and what it leaves behind: the answer is that of the board, the documents
are those of the board after the call, and nothing is reported. -/
theorem ends_routine (h : Keeps start memory board) {call : StatsCall} (hcall : call.Undollared) :
    ∃ after, call.routine.Ends backend options memory (board.play call).1 after [] ∧
      Keeps start after (board.play call).2 := by
  cases call with
  | award playerId increments => exact h.ends_award options playerId hcall
  | set playerId stats => exact h.ends_set options playerId hcall
  | remove playerId names => exact h.ends_remove options playerId names
  | clear playerId =>
    obtain ⟨after, hdelete, hchanges⟩ :=
      (Kind.structured kind).ends_delete resolve_kind h.isOpen playerId
    exact ⟨after, hdelete.bind (ends_pure _ after), h.put .absent hchanges⟩
  | get playerId =>
    obtain ⟨stats, hload, hstats⟩ := h.ends_loadOrBlank options playerId
    have hget : (StatsService.get playerId).Ends backend options memory (.done stats) memory [] :=
      hload.bind (ends_pure _ memory)
    rw [Board.play, ← hstats]
    exact ⟨memory, hget.bind (ends_pure _ memory), h⟩

end Memory.Keeps

/-! ## Runs -/

namespace StatsCall

/-- Carry out calls, one after the other. -/
def runAll (service : Service Memory) :
    List StatsCall → List (Outcome (Option Counters)) × Service Memory
  | [] => ([], service)
  | call :: calls =>
    let (answer, after) := call.routine.run backend service
    let (answers, last) := runAll after calls
    (answer :: answers, last)

end StatsCall

/-- Calls are carried out one after the other. Before each of them the counters of some players may
have been written in another order, and the maps of the call may be visited in another order. -/
inductive Plays : Service Memory → List StatsCall → List (Outcome (Option Counters)) →
    Service Memory → Prop where
  /-- There are no more calls. -/
  | nil (service : Service Memory) : Plays service [] [] service
  /-- There is one more call. -/
  | cons {before after : Service Memory} {memory : Memory} {call visited : StatsCall}
    {calls : List StatsCall} {answers : List (Outcome (Option Counters))}
    (hshuffled : before.state.Shuffled memory) (hvisited : call.Alike visited)
    (h : Plays (visited.routine.run backend (before.movedTo memory)).2 calls answers after) :
    Plays before (call :: calls)
      ((visited.routine.run backend (before.movedTo memory)).1 :: answers) after

/-- Memory is the same as itself in any order. -/
theorem Memory.shuffled_refl (memory : Memory) : memory.Shuffled memory :=
  ⟨rfl, fun _ => .inl rfl⟩

/-- Nothing has to change its order. -/
theorem plays_runAll (service : Service Memory) (calls : List StatsCall) :
    Plays service calls (StatsCall.runAll service calls).1 (StatsCall.runAll service calls).2 := by
  induction calls generalizing service with
  | nil => exact .nil service
  | cons call calls ih => exact .cons service.state.shuffled_refl (.same call) (ih _)

/-- A run from the documents of a board is a run of the board. -/
theorem Plays.answers_eq {start : Memory} {board : Board} {before after : Service Memory}
    {calls : List StatsCall} {answers : List (Outcome (Option Counters))}
    (h : Plays before calls answers after) (hkeeps : start.Keeps before.state board)
    (hcalls : ∀ call ∈ calls, call.Undollared) :
    answers = (board.playAll calls).1 ∧ start.Keeps after.state (board.playAll calls).2 ∧
      (before.sink = .collect → after.reports = before.reports) := by
  induction h generalizing board with
  | nil service => exact ⟨rfl, hkeeps, fun _ => rfl⟩
  | @cons before after memory call visited calls answers hshuffled hvisited _ ih =>
    have hundollared := hvisited.undollared (hcalls call List.mem_cons_self)
    obtain ⟨next, hends, hnext⟩ :=
      (hkeeps.shuffled hshuffled).ends_routine before.options hundollared
    have hends : visited.routine.Ends backend (before.movedTo memory).options
        (before.movedTo memory).state (board.play visited).1 next [] := hends
    obtain ⟨hanswer, hstate, hreports⟩ := hends.run_eq
    -- The board does not notice in which order the maps have been visited.
    rw [← Board.play_eq_of_alike hvisited] at hanswer hnext
    obtain ⟨hanswers, hlast, hquiet⟩ :=
      ih (hstate ▸ hnext) fun call hcall => hcalls call (List.mem_cons_of_mem _ hcall)
    refine ⟨?_, hlast, fun hsink => ?_⟩
    · rw [hanswer, hanswers]
      rfl
    · have hmoved : (before.movedTo memory).sink = .collect := hsink
      rw [hquiet ((Routine.run_sink backend visited.routine _).trans hmoved),
        Routine.run_reports_of_collect backend visited.routine hmoved, hreports, List.append_nil]
      rfl

/-- A backend without records of players keeps the vacant board. -/
theorem keeps_vacant {memory : Memory} (hopen : memory.isOpen = true)
    (hvacant : ∀ slot : Slot, slot.collection = "player_stats" → memory.get? slot = none) :
    memory.Keeps memory Board.vacant where
  isOpen := hopen
  kept playerId := by
    rw [hvacant (PlayerStats.slot playerId) rfl]
    exact .absent
  others _ _ := rfl

/-- On an open backend without documents of players the service is the board: in every run, in
whatever order its maps are visited, the answers are those of the board, the documents of the
players are those of the board in the end, no other document has changed and nothing has been
reported. One of these runs is the one in which every map is visited in its own order. -/
theorem plays_board {start : Service Memory} (hopen : start.state.isOpen = true)
    (hvacant : ∀ slot : Slot, slot.collection = "player_stats" → start.state.get? slot = none)
    {calls : List StatsCall} (hcalls : ∀ call ∈ calls, call.Undollared) :
    Plays start calls (StatsCall.runAll start calls).1 (StatsCall.runAll start calls).2 ∧
      ∀ answers finish, Plays start calls answers finish →
        answers = (Board.vacant.playAll calls).1 ∧
          start.state.Keeps finish.state (Board.vacant.playAll calls).2 ∧
          (start.sink = .collect → finish.reports = start.reports) :=
  ⟨plays_runAll start calls, fun _ _ hplays =>
    hplays.answers_eq (keeps_vacant hopen hvacant) hcalls⟩

/-- An award that overflows, an award to nobody and the removal of an unknown counter stand between
an award and the look at what has become of it. -/
theorem plays_board_overflow :
    let calls : List StatsCall := [.award "p" (NameMap.empty.insert "kills" 5),
      .award "p" ((NameMap.empty.insert "wins" 1).insert "kills" 9223372036854775807),
      .award "" (NameMap.empty.insert "kills" 5), .remove "p" ["wins", "wins"], .get "p"]
    let seen (counters : Counters) := (counters "kills", counters "wins")
    (StatsCall.runAll (.on .fresh .collect) calls).1.map (Option.map seen <$> ·) =
      [.done (some (some 5, none)), .aborted .additionOverflow,
        .failed (.emptyKey "PlayerStatsData" "playerId"), .done none,
        .done (some (some 5, none))] := by
  intro calls seen
  have hopen : (Service.on Memory.fresh .collect).state.isOpen = true := rfl
  have hcalls : ∀ call ∈ calls, call.Undollared := by decide
  obtain ⟨hplays, hboard⟩ := plays_board hopen (fun _ _ => rfl) hcalls
  rw [(hboard _ _ hplays).1]
  rfl

end KeyedStore
