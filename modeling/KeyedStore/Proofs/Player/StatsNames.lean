import KeyedStore.Proofs.Codec.Lossless
import KeyedStore.Proofs.Storage.Frame

/-!
# The names of counters

Callers choose the names of counters freely, and counters become an object in a document. BSON takes
an object of a single counter for a date or for one of its two extreme values if the counter has the
name of such a value. The counters are then gone: what is stored in their place is no object.

- `Misread`: the counters that are taken for something else;
- `read?_counters`: there are no others;
- `StatsService.run_set_get`: counters that are set are those that are got, unless they are misread,
  and then there are none and the failure is reported.

## References

- SPEC_FULL.md, section 8, Round trip, of statistics; section 10.7, `set_player_stats`
-/

namespace KeyedStore

open Json Memory

namespace PlayerStats

/-- Counters that BSON takes for another value: a single one that is called a date, or that is one
and called the least or the greatest key. -/
def Misread (stats : NameMap Int64) : Prop :=
  (∃ n, stats.pairs = [("$date", n)]) ∨ stats.pairs = [("$minKey", 1)] ∨
    stats.pairs = [("$maxKey", 1)]

/-- Counters as the values of a document. -/
def counters (pairs : List (String × Int64)) : Document :=
  pairs.map fun (name, value) => (name, .int64 value)

/-- Counters become a document of integers of 64 bits. -/
theorem ofPairs_counters (pairs : List (String × Int64)) :
    Bson.ofPairs (pairs.map fun (name, value) => (name, .whole value.toInt)) =
      .ok (counters pairs) := by
  induction pairs with
  | nil => rfl
  | cons pair pairs ih =>
    obtain ⟨name, value⟩ := pair
    have hfirst : Bson.ofJson (.whole value.toInt) = .ok (.int64 value) := by
      rw [Bson.ofJson, if_pos ⟨value.le_toInt, value.toInt_lt⟩, Int64.ofInt_toInt]
    exact Bson.ofPairs_cons name hfirst ih

/-- Such a document is shown as the counters. -/
theorem pairsToJson_counters (pairs : List (String × Int64)) :
    Bson.pairsToJson (counters pairs) =
      pairs.map fun (name, value) => (name, .whole value.toInt) := by
  induction pairs with
  | nil => rfl
  | cons pair pairs ih =>
    obtain ⟨name, value⟩ := pair
    rw [counters, List.map_cons, Bson.pairsToJson, ← counters, ih]
    rfl

/-- The only names that make something else of an integer. -/
theorem single?_int64 (name : String) (n : Int64) :
    ExtendedJson.single? name (.int64 n) =
      if name = "$date" then some (.dateTime n)
      else if name = "$minKey" ∧ n = 1 then some .minKey
      else if name = "$maxKey" ∧ n = 1 then some .maxKey
      else none := by
  by_cases hdate : name = "$date"
  · subst hdate
    rfl
  by_cases hmin : name = "$minKey"
  · subst hmin
    simp [ExtendedJson.single?, ExtendedJson.isOne]
  by_cases hmax : name = "$maxKey"
  · subst hmax
    simp [ExtendedJson.single?, ExtendedJson.isOne]
  unfold ExtendedJson.single?
  split
  -- Every other form asks for a text, for bytes, for a truth value or for a document.
  all_goals simp_all [Bson.string?, Bson.bytes?, Bson.document?]

/-- Milliseconds are shown as a value whose text is read back. -/
theorem legible_instantJson {millis : Int} (hlow : -2 ^ 63 ≤ millis) (hhigh : millis < 2 ^ 63) :
    Legible (Bson.instantJson millis) := by
  unfold Bson.instantJson
  split
  · trivial
  · exact ⟨hlow, by omega⟩

/-- Milliseconds are never shown as an object. -/
theorem instantJson_ne_object (millis : Int) (pairs : List (String × Json)) :
    Bson.instantJson millis ≠ .object pairs := by
  unfold Bson.instantJson
  split <;> simp

/-- Misread counters become a value that is shown as something else than an object; all others are
the object that they are. -/
theorem read?_counters (stats : NameMap Int64) :
    (Misread stats ∧ ∃ bson, ExtendedJson.read? (counters stats.pairs) = some bson ∧
        Legible bson.toJson ∧ ∀ pairs, bson.toJson ≠ .object pairs) ∨
      (¬ Misread stats ∧ ExtendedJson.read? (counters stats.pairs) = none) := by
  obtain ⟨pairs, hdistinct⟩ := stats
  unfold Misread
  match pairs with
  | [] => exact .inr ⟨by simp, rfl⟩
  | [(name, n)] =>
    have hsingle : ExtendedJson.read? (counters [(name, n)]) = _ := single?_int64 name n
    by_cases hdate : name = "$date"
    · subst hdate
      refine .inl ⟨.inl ⟨n, rfl⟩, .dateTime n, hsingle, ?_, ?_⟩
      · exact legible_instantJson n.le_toInt n.toInt_lt
      · exact instantJson_ne_object n.toInt
    by_cases hmin : name = "$minKey" ∧ n = 1
    · obtain ⟨rfl, rfl⟩ := hmin
      exact .inl ⟨.inr (.inl rfl), .minKey, hsingle, trivial, fun _ => by simp [Bson.toJson]⟩
    by_cases hmax : name = "$maxKey" ∧ n = 1
    · obtain ⟨rfl, rfl⟩ := hmax
      exact .inl ⟨.inr (.inr rfl), .maxKey, hsingle, trivial, fun _ => by simp [Bson.toJson]⟩
    rw [if_neg hdate, if_neg hmin, if_neg hmax] at hsingle
    refine .inr ⟨?_, hsingle⟩
    simp only [List.cons.injEq, Prod.mk.injEq, and_true]
    rintro (⟨m, hname, -⟩ | hmin' | hmax')
    · exact hdate hname
    · exact hmin hmin'
    · exact hmax hmax'
  | [(first, m), (second, n)] =>
    -- Only program text has two entries, and an integer is no text.
    refine .inr ⟨by simp, ?_⟩
    simp [counters, ExtendedJson.read?, ExtendedJson.scoped?, Bson.string?]
  | _ :: _ :: _ :: _ => exact .inr ⟨by simp, rfl⟩

/-- Counters become what their pairs are read as. -/
theorem ofJson_statsJson (stats : NameMap Int64) :
    Bson.ofJson (statsJson stats) = .ok (ExtendedJson.read (counters stats.pairs)) :=
  Bson.ofJson_object (ofPairs_counters stats.pairs)

/-- Counters that are not misread are read as the document that they are. -/
theorem read_counters {stats : NameMap Int64} (h : ¬ Misread stats) :
    ExtendedJson.read (counters stats.pairs) = .document (counters stats.pairs) := by
  rcases read?_counters stats with ⟨hmisread, -⟩ | ⟨-, hread⟩
  · exact absurd hmisread h
  · rw [ExtendedJson.read, hread, Option.getD_none]

/-- BSON holds counters as they are unless it misreads them. -/
theorem faithful_statsJson {stats : NameMap Int64} (h : ¬ Misread stats) :
    (statsJson stats).Faithful := by
  refine ⟨?_, .document (counters stats.pairs), ?_, ?_⟩
  · refine legiblePairs_iff.mpr fun pair hpair => ?_
    obtain ⟨⟨name, n⟩, -, rfl⟩ := List.mem_map.mp hpair
    exact (plain_int64 n).legible
  · rw [ofJson_statsJson, read_counters h]
  · rw [Bson.toJson, pairsToJson_counters, statsJson]

/-! ## Misread counters -/

/-- The declaration of statistics keeps the rules. -/
theorem resolve_kind :
    kind.declaration.resolve = .ok ⟨"PlayerStatsData", "player_stats", "playerId"⟩ := rfl

/-- Beside the key the counters are all that remains of statistics. -/
theorem remaining_payload (options : CodecOptions) (playerId : String) (stats : NameMap Int64) :
    Codec.remaining ⟨"PlayerStatsData", "player_stats", "playerId"⟩ options
        [("playerId", .string playerId), ("stats", statsJson stats)] =
      [("stats", statsJson stats)] := by
  obtain ⟨omitNullFields, diagnosticLimit⟩ := options
  cases omitNullFields <;> rfl

/-- What is not an object is no table of counters. -/
theorem read_of_not_object {value : Json} (h : ∀ pairs, value ≠ .object pairs)
    (playerId : String) :
    kind.read (.object [("stats", value), ("playerId", .string playerId)]) =
      .error (.wrongKind value "a map") := by
  cases value with
  | object pairs => exact absurd rfl (h pairs)
  | _ => rfl

/-- The document of a player holds what the counters are read as. -/
theorem encode_eq {playerId : String} (hne : playerId ≠ "") (stats : NameMap Int64)
    (options : CodecOptions) :
    (Codec.encode kind options ⟨playerId, stats⟩).value =
      .ok ⟨"player_stats", playerId, [(identityField, .string playerId),
        ("stats", ExtendedJson.read (counters stats.pairs))]⟩ := by
  have hpayload : Document.ofPairs (Codec.remaining
      ⟨"PlayerStatsData", "player_stats", "playerId"⟩ options
      [("playerId", .string playerId), ("stats", statsJson stats)]) =
        .ok [("stats", ExtendedJson.read (counters stats.pairs))] := by
    have hname : ∀ bson, ExtendedJson.read [("stats", bson)] = .document [("stats", bson)] :=
      fun bson => ExtendedJson.read_eq_document_of_undollared (by simp [Pairs.names]; decide)
    -- The counters are one value among the fields, and the fields themselves have other names.
    rw [remaining_payload]
    simp only [Document.ofPairs, Bson.ofPairs, ofJson_statsJson, bind, Except.bind, pure,
      Except.pure, hname]
  refine Codec.encode_eq options resolve_kind rfl hne rfl ?_ ?_ hpayload ?_
  · simp [Pairs.Distinct, Pairs.names]
  · exact ⟨.string playerId, rfl, options.keeps_of_not_null rfl⟩
  · rw [remaining_payload]
    rfl

/-- Misread counters are stored, and their document cannot be decoded. -/
theorem exists_encode_of_misread {stats : NameMap Int64} (h : Misread stats) {playerId : String}
    (hne : playerId ≠ "") (options : CodecOptions) :
    ∃ document, (Codec.encode kind options ⟨playerId, stats⟩).value =
        .ok ⟨"player_stats", playerId, document⟩ ∧
      ∀ other : CodecOptions, ∃ error, Codec.decode kind other document playerId = .error error ∧
        error.kind = .serialization := by
  rcases read?_counters stats with ⟨-, bson, hread, hlegible, hobject⟩ | ⟨hnot, -⟩
  swap
  · exact absurd h hnot
  have hencode := encode_eq hne stats options
  rw [ExtendedJson.read, hread, Option.getD_some] at hencode
  refine ⟨_, hencode, fun other => ?_⟩
  -- What the counters have become is shown, but it is no object to read counters from.
  have hshown : LegiblePairs [("stats", bson.toJson), ("playerId", .string playerId)] :=
    ⟨hlegible, trivial, trivial⟩
  have htext : Codec.intermediate ⟨"PlayerStatsData", "player_stats", "playerId"⟩
      [(identityField, .string playerId), ("stats", bson)] playerId =
        (Json.object [("stats", bson.toJson), ("playerId", .string playerId)]).render :=
    Codec.intermediate_cons (by simp [Pairs.names]) playerId playerId
  exact ⟨_, Codec.decode_of_unreadable other resolve_kind hshown htext
    (read_of_not_object hobject playerId), rfl⟩

/-- All other counters are stored, and their document is decoded to them. -/
theorem exists_encode_of_not_misread {stats : NameMap Int64} (h : ¬ Misread stats)
    {playerId : String} (hne : playerId ≠ "") (options : CodecOptions) :
    ∃ document, (Codec.encode kind options ⟨playerId, stats⟩).value =
        .ok ⟨"player_stats", playerId, document⟩ ∧
      ∀ other : CodecOptions,
        Codec.decode kind other document playerId = .ok ⟨playerId, stats⟩ := by
  obtain ⟨metadata, fields, hlossless⟩ := lossless ⟨playerId, stats⟩ (faithful_statsJson h)
  obtain rfl : ⟨"PlayerStatsData", "player_stats", "playerId"⟩ = metadata :=
    Except.ok.inj (resolve_kind.symm.trans hlossless.resolves)
  exact hlossless.exists_encode rfl hne options

end PlayerStats

/-! ## Setting counters and getting them -/

namespace StatsService

variable {σ : Type}

/-- The counters that are got are those of the record that is loaded. -/
theorem run_get (backend : Backend σ) {playerId : String} {service : Service σ}
    {found : Option PlayerStats}
    (h : ((Facade.load PlayerStats.kind playerId).run backend service).1 = .done found) :
    ((get playerId).run backend service).1 = .done (found.getD (.blank playerId)).stats ∧
      (get playerId).reports backend service =
        (Facade.load PlayerStats.kind playerId).reports backend service := by
  rw [Routine.run_eq_trace] at h
  rw [Routine.run_eq_trace, Routine.reports_eq, Routine.reports_eq, get, loadOrBlank]
  generalize hload : (Facade.load PlayerStats.kind playerId).trace backend service.options
    service.state = trace at h ⊢
  simp only [Routine.trace_bind, hload, Routine.trace_pure]
  obtain ⟨outcome, state, events⟩ := trace
  obtain rfl : outcome = .done found := h
  simp [Trace.after, Trace.reports]

variable {playerId : String} {stats : NameMap Int64} {service : Service Memory}

/-- Counters that are not misread are got as they were set. -/
theorem run_set_get_of_not_misread (h : ¬ PlayerStats.Misread stats) (hne : playerId ≠ "")
    (hopen : service.state.isOpen = true) :
    ((set playerId stats).run backend service).1 = .done () ∧
      (set playerId stats).reports backend service = [] ∧
      ((get playerId).run backend ((set playerId stats).run backend service).2).1 = .done stats ∧
      (get playerId).reports backend ((set playerId stats).run backend service).2 = [] := by
  obtain ⟨document, hencode, hdecode⟩ :=
    PlayerStats.exists_encode_of_not_misread h hne service.options
  obtain ⟨hset, hreports, hget⟩ := (Kind.structured PlayerStats.kind).run_store
    ⟨playerId, stats⟩ hopen (congrArg Outcome.ofExcept hencode)
  obtain ⟨hload, hquiet⟩ := (Kind.structured PlayerStats.kind).run_load
    PlayerStats.resolve_kind hget (hdecode _)
  obtain ⟨hgot, hgotReports⟩ := run_get backend hload
  exact ⟨hset, hreports, hgot, hgotReports.trans hquiet⟩

/-- Misread counters are gone: there are none to get, and the failure to load them is reported. -/
theorem run_set_get_of_misread (h : PlayerStats.Misread stats) (hne : playerId ≠ "")
    (hopen : service.state.isOpen = true) :
    ((set playerId stats).run backend service).1 = .done () ∧
      (set playerId stats).reports backend service = [] ∧
      ((get playerId).run backend ((set playerId stats).run backend service).2).1 = .done .empty ∧
      ∃ error : StoreError, error.kind = .serialization ∧
        (get playerId).reports backend ((set playerId stats).run backend service).2 =
          [⟨"load_structured", "player_stats", playerId, "PlayerStatsData", error⟩] := by
  obtain ⟨document, hencode, hdecode⟩ :=
    PlayerStats.exists_encode_of_misread h hne service.options
  obtain ⟨hset, hreports, hget⟩ := (Kind.structured PlayerStats.kind).run_store
    ⟨playerId, stats⟩ hopen (congrArg Outcome.ofExcept hencode)
  obtain ⟨error, herror, hkind⟩ := hdecode ((set playerId stats).run backend service).2.options
  obtain ⟨hload, hreport⟩ := (Kind.structured PlayerStats.kind).run_load_of_undecodable
    PlayerStats.resolve_kind hget herror (by simp [StoreError.isConfiguration, hkind])
  obtain ⟨hgot, hgotReports⟩ := run_get backend hload
  exact ⟨hset, hreports, hgot, error, hkind, hgotReports.trans hreport⟩

/-- What becomes of the counters of a player who has a name when they are set and got again. -/
structure GotAsSet (playerId : String) (stats : NameMap Int64) (service : Service Memory) :
    Prop where
  /-- The counters are set. -/
  set_done : ((set playerId stats).run backend service).1 = .done ()
  /-- Nothing is reported on the way. -/
  set_quiet : (set playerId stats).reports backend service = []
  /-- Counters that are not misread are got as they were set, and nothing is reported. -/
  got : ¬ PlayerStats.Misread stats →
    ((get playerId).run backend ((set playerId stats).run backend service).2).1 = .done stats ∧
      (get playerId).reports backend ((set playerId stats).run backend service).2 = []
  /-- Misread counters are gone, and the failure to load them is reported once. -/
  lost : PlayerStats.Misread stats →
    ((get playerId).run backend ((set playerId stats).run backend service).2).1 = .done .empty ∧
      ∃ error : StoreError, error.kind = .serialization ∧
        (get playerId).reports backend ((set playerId stats).run backend service).2 =
          [⟨"load_structured", "player_stats", playerId, "PlayerStatsData", error⟩]

/-- On an open backend the counters of a player who has a name are always set, and they are got as
they were set unless they are misread. -/
theorem run_set_get (hne : playerId ≠ "") (hopen : service.state.isOpen = true) :
    GotAsSet playerId stats service := by
  by_cases h : PlayerStats.Misread stats
  · obtain ⟨hset, hreports, hgot⟩ := run_set_get_of_misread h hne hopen
    exact ⟨hset, hreports, fun hnot => absurd h hnot, fun _ => hgot⟩
  · obtain ⟨hset, hreports, hgot⟩ := run_set_get_of_not_misread h hne hopen
    exact ⟨hset, hreports, fun _ => hgot, fun hmisread => absurd hmisread h⟩

/-- A single counter of the name of a date is lost, one of another name is kept. -/
theorem run_set_get_date :
    ((get "p").run backend
        ((set "p" (NameMap.empty.insert "$date" 5)).run backend (.on .fresh .collect)).2).1 =
      .done .empty ∧
    ((get "p").run backend
        ((set "p" (NameMap.empty.insert "kills" 5)).run backend (.on .fresh .collect)).2).1 =
      .done (NameMap.empty.insert "kills" 5) := by
  have hopen : (Service.on Memory.fresh .collect).state.isOpen = true := rfl
  have hmisread : PlayerStats.Misread (NameMap.empty.insert "$date" 5) := .inl ⟨5, rfl⟩
  have hkept : ¬ PlayerStats.Misread (NameMap.empty.insert "kills" 5) := by
    rintro (⟨n, h⟩ | h | h) <;> simp [NameMap.insert, NameMap.empty, Pairs.insert] at h
  exact ⟨((run_set_get (by decide) hopen).lost hmisread).1,
    ((run_set_get (by decide) hopen).got hkept).1⟩

/-- It is not true that counters are got as they were set, whatever their names. -/
theorem not_forall_run_set_get :
    ¬ ∀ (playerId : String) (stats : NameMap Int64) (service : Service Memory),
      playerId ≠ "" → service.state.isOpen = true →
        ((get playerId).run backend ((set playerId stats).run backend service).2).1 =
            .done stats ∧
          (get playerId).reports backend ((set playerId stats).run backend service).2 = [] := by
  intro h
  have hopen : (Service.on Memory.fresh .collect).state.isOpen = true := rfl
  have hmisread : PlayerStats.Misread (NameMap.empty.insert "$date" 5) := .inl ⟨5, rfl⟩
  have hplayer : "p" ≠ "" := by decide
  obtain ⟨-, hquiet⟩ := h "p" _ _ hplayer hopen
  obtain ⟨-, -, -, error, -, hreport⟩ := run_set_get_of_misread hmisread hplayer hopen
  rw [hreport] at hquiet
  exact absurd hquiet (by simp)

end StatsService

end KeyedStore
