import KeyedStore.Player.Level
import KeyedStore.Player.Stats
import KeyedStore.Proofs.Storage.NativeDates

/-!
# Integers of stored documents

A document that another program has stored may hold any value where an entity has an integer. An
integer of 32 or 64 bits is read as it is, and no other value is read as a number, with one
exception: a date that is no instant is shown as its number of milliseconds, so it counts as that
number wherever the number fits.

- `Bson.IsInteger`, `Bson.CountsAs`: the values that are integers, and those that are taken for one;
- `Bson.reread_toJson_eq_whole_iff`: the values that a reader is shown as a whole number;
- `Shape.int64_toJson_iff`, `Shape.int32_toJson_iff`, `Shape.uint8_toJson_iff`: what an integer is
  read of;
- `Document.Counts`: the same of a document of counters;
- `ReadsField.run_load_iff`: how an entity of a key and one field is loaded;
- `load_reads_stored_integers`: the integers of player levels, of statistics and of profiles.

## References

- SPEC_FULL.md, section 10.4, the bridge to JSON; section 10.7, the entities with integers
-/

namespace KeyedStore

/-! ## Values that count as integers -/

namespace Bson

/-- The value is an integer of 32 or 64 bits. -/
inductive IsInteger : Bson → Int → Prop where
  /-- An integer of 32 bits. -/
  | int32 (n : Int32) : IsInteger (.int32 n) n.toInt
  /-- An integer of 64 bits. -/
  | int64 (n : Int64) : IsInteger (.int64 n) n.toInt

/-- A reader takes the value for an integer. -/
inductive CountsAs : Bson → Int → Prop where
  /-- It is one. -/
  | integer {value : Bson} {n : Int} : value.IsInteger n → CountsAs value n
  /-- It is a date at a number of milliseconds that is no instant. -/
  | date {millis : Int64} : ¬ Instant.InRange millis.toInt →
    CountsAs (.dateTime millis) millis.toInt

variable {value : Bson} {n : Int}

/-- A number of 32 bits lies in the range of instants, so only an integer counts as it. -/
theorem CountsAs.isInteger (h : value.CountsAs n) (hlow : -2 ^ 31 ≤ n) (hhigh : n < 2 ^ 31) :
    value.IsInteger n := by
  rcases h with hinteger | houtside
  · exact hinteger
  · exact absurd ⟨by omega, by omega⟩ houtside

/-- A date that is an instant does not count. -/
theorem CountsAs.not_inRange {millis : Int64} (h : (Bson.dateTime millis).CountsAs n) :
    ¬ Instant.InRange millis.toInt := by
  rcases h with ⟨⟨⟩⟩ | houtside
  exact houtside

/-- Milliseconds of an instant are shown as a text. -/
theorem instantJson_of_inRange {millis : Int} (h : Instant.InRange millis) :
    ∃ text, instantJson millis = .string text := by
  obtain ⟨instant, hinstant, -⟩ := Instant.exists_ofMillis?_eq h
  exact ⟨instant.millisText, by rw [instantJson, timestampOfMillis?, hinstant, Option.map_some]⟩

/-- Milliseconds of no instant are shown as their number. -/
theorem instantJson_of_not_inRange {millis : Int} (h : ¬ Instant.InRange millis) :
    instantJson millis = .whole millis := by
  rw [instantJson, timestampOfMillis?, Instant.ofMillis?_eq_none h, Option.map_none]

/-- A reader is shown a whole number of exactly the values that count as it. -/
theorem reread_toJson_eq_whole_iff : value.toJson.reread = .whole n ↔ value.CountsAs n := by
  constructor
  · intro h
    -- A double stays a double, even if it is a whole one, and all sorts of values that are not
    -- named here are shown as texts, truth values, containers or null.
    cases value with
    | int32 stored =>
      obtain rfl := Json.whole.inj h
      exact .integer (.int32 stored)
    | int64 stored =>
      obtain rfl := Json.whole.inj h
      exact .integer (.int64 stored)
    | dateTime millis =>
      by_cases hrange : Instant.InRange millis.toInt
      · obtain ⟨text, htext⟩ := instantJson_of_inRange hrange
        exact absurd h (by simp [toJson, htext, Json.reread])
      · rw [toJson, instantJson_of_not_inRange hrange] at h
        obtain rfl := Json.whole.inj h
        exact .date hrange
    | timestamp time increment =>
      -- A number of seconds of thirty-two bits always lies in the range of instants.
      have htime := time.toNat_lt
      have hrange : Instant.InRange (time.toNat * 1000) := ⟨by omega, by omega⟩
      obtain ⟨text, htext⟩ := instantJson_of_inRange hrange
      exact absurd h (by simp [toJson, htext, Json.reread])
    | double x =>
      by_cases hfinite : x.isFinite <;> exact absurd h (by simp [toJson, hfinite, Json.reread])
    | _ => exact absurd h (by simp [toJson, Json.reread])
  · rintro (⟨⟨⟩⟩ | houtside)
    · rfl
    · rfl
    · rw [toJson, instantJson_of_not_inRange houtside, Json.reread]

/-- A value counts as one integer at most. -/
theorem CountsAs.unique {m : Int} (hn : value.CountsAs n) (hm : value.CountsAs m) : n = m :=
  Json.whole.inj ((reread_toJson_eq_whole_iff.mpr hn).symm.trans
    (reread_toJson_eq_whole_iff.mpr hm))

/-- Only a document is shown as an object. -/
theorem reread_toJson_eq_object_iff {pairs : List (String × Json)} :
    value.toJson.reread = .object pairs ↔
      ∃ inner, value = .document inner ∧ Json.rereadPairs (pairsToJson inner) = pairs := by
  constructor
  · intro h
    cases value with
    | document inner => exact ⟨inner, rfl, Json.object.inj h⟩
    | double x =>
      by_cases hfinite : x.isFinite <;> exact absurd h (by simp [toJson, hfinite, Json.reread])
    | dateTime _ | timestamp _ _ =>
      rw [toJson, instantJson] at h
      split at h <;> exact absurd h (by simp [Json.reread])
    | _ => exact absurd h (by simp [toJson, Json.reread])
  · rintro ⟨inner, rfl, rfl⟩
    rfl

end Bson

/-! ## Shapes of integers -/

namespace Shape

variable {value : Bson}

/-- What is read of a whole number of a range, which is then taken into a type. -/
theorem map_wholeIn_eq_ok_iff {β : Type} {f : Int → β} {least greatest : Int} {wanted : String}
    {json : Json} {part : β} :
    (wholeIn least greatest wanted json).map f = .ok part ↔
      ∃ n, json = .whole n ∧ least ≤ n ∧ n ≤ greatest ∧ f n = part := by
  cases json with
  | whole m =>
    rw [wholeIn]
    split_ifs with hrange
    · constructor
      · intro h
        exact ⟨m, rfl, hrange.1, hrange.2, Except.ok.inj h⟩
      · rintro ⟨n, hn, -, -, rfl⟩
        rw [Json.whole.inj hn]
        rfl
    · simp only [Except.map, reduceCtorEq, false_iff]
      rintro ⟨n, hn, hlow, hhigh, -⟩
      obtain rfl := Json.whole.inj hn
      exact hrange ⟨hlow, hhigh⟩
  | _ => simp [wholeIn, Except.map]

/-- A signed integer of 64 bits is read of the values that count as it. -/
theorem int64_toJson_iff {n : Int64} :
    int64 value.toJson.reread = .ok n ↔ value.CountsAs n.toInt := by
  rw [← Bson.reread_toJson_eq_whole_iff, int64, map_wholeIn_eq_ok_iff]
  constructor
  · rintro ⟨m, hshown, hlow, hhigh, rfl⟩
    rwa [Int64.toInt_ofInt_of_le (by omega) (by omega)]
  · intro hshown
    have hlow := n.le_toInt
    have hhigh := n.toInt_lt
    exact ⟨_, hshown, by omega, by omega, Int64.ofInt_toInt n⟩

/-- A signed integer of 32 bits is read of the integers that it is. -/
theorem int32_toJson_iff {n : Int32} :
    int32 value.toJson.reread = .ok n ↔ value.IsInteger n.toInt := by
  have hlow := n.le_toInt
  have hhigh := n.toInt_lt
  rw [int32, map_wholeIn_eq_ok_iff]
  constructor
  · rintro ⟨m, hshown, hleast, hgreatest, rfl⟩
    -- The number has been in the range of 32 bits all along.
    rw [Int32.toInt_ofInt_of_le (by omega) (by omega)]
    exact (Bson.reread_toJson_eq_whole_iff.mp hshown).isInteger (by omega) (by omega)
  · intro hinteger
    exact ⟨_, Bson.reread_toJson_eq_whole_iff.mpr (.integer hinteger), by omega, by omega,
      Int32.ofInt_toInt n⟩

/-- An unsigned integer of 8 bits is read of the integers that it is. -/
theorem uint8_toJson_iff {n : UInt8} :
    uint8 value.toJson.reread = .ok n ↔ value.IsInteger n.toNat := by
  rw [uint8, map_wholeIn_eq_ok_iff]
  constructor
  · rintro ⟨m, hshown, hleast, hgreatest, rfl⟩
    rw [UInt8.toNat_ofNat', Nat.mod_eq_of_lt (by omega), Int.toNat_of_nonneg hleast]
    exact (Bson.reread_toJson_eq_whole_iff.mp hshown).isInteger (by omega) (by omega)
  · intro hinteger
    have hhigh := n.toNat_lt
    exact ⟨_, Bson.reread_toJson_eq_whole_iff.mpr (.integer hinteger), by omega, by omega,
      UInt8.ofNat_toNat⟩

end Shape

/-! ## Counters -/

/-- The counters are, in order, the pairs of a document, with the integers that their values count
as. -/
def Document.Counts (inner : Document) (counters : List (String × Int64)) : Prop :=
  List.Forall₂ (fun stored counter => stored.1 = counter.1 ∧ stored.2.CountsAs counter.2.toInt)
    inner counters

namespace Document.Counts

variable {inner : Document} {counters : List (String × Int64)}

/-- The counters of a document have the names of its values. -/
theorem names_eq (h : inner.Counts counters) : Pairs.names inner = Pairs.names counters := by
  induction h with
  | nil => rfl
  | cons hpair _ ih => exact congrArg₂ List.cons hpair.1 ih

/-- A counter is found exactly where a value is stored that counts as it. -/
theorem get?_iff (h : inner.Counts counters) {name : String} {n : Int64} :
    Pairs.get? name counters = some n ↔
      ∃ value, Pairs.get? name inner = some value ∧ value.CountsAs n.toInt := by
  -- The pairs of both lists stand side by side, so the first of a name is found in the same place.
  induction h with
  | nil => simp [Pairs.get?]
  | @cons stored counter _ _ hpair _ ih =>
    obtain ⟨hname, hcounts⟩ := hpair
    rw [Pairs.get?, Pairs.get?, hname]
    split_ifs
    · constructor
      · intro hfound
        rw [← Option.some.inj hfound]
        exact ⟨stored.2, rfl, hcounts⟩
      · rintro ⟨value, hvalue, hn⟩
        rw [← Option.some.inj hvalue] at hn
        exact congrArg some (Int64.toInt_inj.mp (hcounts.unique hn))
    · exact ih

end Document.Counts

namespace Shape

/-- Counters are read of a document exactly if its values count as them, one by one. -/
theorem pairsOf_toJson_iff {inner : Document} {counters : List (String × Int64)} :
    pairsOf int64 (Json.rereadPairs (Bson.pairsToJson inner)) = .ok counters ↔
      Document.Counts inner counters := by
  induction inner generalizing counters with
  | nil =>
    rw [Document.Counts, List.forall₂_nil_left_iff]
    exact ⟨fun h => (Except.ok.inj h).symm, fun h => h ▸ rfl⟩
  | cons stored inner ih =>
    obtain ⟨name, value⟩ := stored
    rw [Document.Counts, List.forall₂_cons_left_iff, Bson.pairsToJson, Json.rereadPairs, pairsOf]
    constructor
    · -- The first value is read, and then the others.
      intro h
      obtain ⟨n, hn, h⟩ := exists_of_bind_eq_ok h
      obtain ⟨rest, hrest, h⟩ := exists_of_bind_eq_ok h
      obtain rfl := Except.ok.inj h
      exact ⟨(name, n), rest, ⟨rfl, int64_toJson_iff.mp hn⟩, ih.mp hrest, rfl⟩
    · rintro ⟨⟨_, n⟩, rest, ⟨rfl, hcounts⟩, hrest, rfl⟩
      rw [int64_toJson_iff.mpr hcounts, ih.mpr hrest]
      rfl

/-- Counters are read of the document that counts as them. -/
theorem mapOf_toJson_of_counts {inner : Document} {stats : NameMap Int64}
    (h : inner.Counts stats.pairs) :
    mapOf int64 (Bson.document inner).toJson.reread = .ok stats := by
  rw [Bson.toJson, Json.reread, mapOf, pairsOf_toJson_iff.mpr h]
  exact congrArg Except.ok (NameMap.ofList_pairs stats)

/-- Counters are read of nothing but a document that counts as them. -/
theorem exists_counts_of_mapOf_toJson {value : Bson} {stats : NameMap Int64}
    (hdistinct : ∀ inner, value = .document inner → Pairs.Distinct inner)
    (h : mapOf int64 value.toJson.reread = .ok stats) :
    ∃ inner, value = .document inner ∧ Document.Counts inner stats.pairs := by
  cases hshown : value.toJson.reread with
  | object pairs =>
    obtain ⟨inner, rfl, rfl⟩ := Bson.reread_toJson_eq_object_iff.mp hshown
    rw [hshown, mapOf] at h
    cases hread : pairsOf int64 (Json.rereadPairs (Bson.pairsToJson inner)) with
    | error fault => exact absurd h (by simp [hread, Except.map])
    | ok counters =>
      -- The names are those of the document, so none of them is written twice.
      have hcounts := pairsOf_toJson_iff.mp hread
      have hnames : Pairs.Distinct counters := by
        rw [Pairs.Distinct, ← hcounts.names_eq]
        exact hdistinct inner rfl
      rw [hread] at h
      obtain rfl := Except.ok.inj h
      have hpairs := NameMap.ofList_pairs ⟨counters, hnames⟩
      exact ⟨inner, rfl, by rwa [hpairs]⟩
  | _ => exact absurd h (by simp [hshown, mapOf])

end Shape

/-! ## Loading -/

/-- A document is found under a key of a collection. -/
def Finds {σ : Type} (backend : Backend σ) (service : Service σ) (collection key : String)
    (document : Document) : Prop :=
  (backend.perform (.find ⟨collection, key⟩) service.state).1 = .ok (some document)

section

variable {σ α β : Type} {backend : Backend σ} {service : Service σ} {metadata : Metadata}
  {key : String} {document : Document}

/-- Of a document that is found, what is loaded is what the kind reads. -/
theorem Facade.run_load_eq_some_iff {kind : StructuredKind α} {entity : α}
    (hresolve : kind.declaration.resolve = .ok metadata)
    (hfind : Finds backend service metadata.collection key document) :
    ((Facade.load kind key).run backend service).1 = .done (some entity) ↔
      kind.read (.object (Codec.pairsRead metadata document key)) = .ok entity := by
  obtain ⟨hrun, -⟩ := (Kind.structured kind).run_load_of_found hresolve hfind
  rw [← Codec.decode_eq_ok_iff service.options hresolve]
  simp only [Kind.load, Kind.decode] at hrun
  rw [hrun]
  cases hdecode : Codec.decode kind service.options document key with
  | ok decoded =>
    show (Outcome.done (some decoded) : Outcome (Option α)) = _ ↔ _
    simp
  | error error =>
    -- A failure is passed on or settled, and neither way is anything loaded.
    show (if error.isConfiguration then .failed error else .done none : Outcome (Option α)) = _ ↔ _
    split_ifs <;> simp

/-- A field that must be there has been read of a value of the document. -/
theorem Codec.exists_stored_of_required {part : α} {field : String} {shape : Shape α}
    (hkey : field ≠ metadata.keyField) (hidentity : field ≠ identityField)
    (h : (∃ json, Pairs.get? field (Codec.pairsRead metadata document key) = some json ∧
        shape json = .ok part) ∨
      Pairs.get? field (Codec.pairsRead metadata document key) = none ∧ none = some part) :
    ∃ value, Pairs.get? field document = some value ∧ shape value.toJson.reread = .ok part := by
  obtain ⟨json, hjson, hread⟩ := h.resolve_right (by simp)
  rw [Codec.get?_pairsRead_of_ne hkey hidentity] at hjson
  obtain ⟨value, hvalue, rfl⟩ := Option.map_eq_some_iff.mp hjson
  exact ⟨value, hvalue, hread⟩

/-- Entities of a kind have their key and one field of their own, which may be missing. -/
structure ReadsField (kind : StructuredKind β) (metadata : Metadata) (make : String → α → β)
    (field : String) (shape : Shape α) (absent : α) : Prop where
  /-- The declaration keeps the rules. -/
  resolves : kind.declaration.resolve = .ok metadata
  /-- The two fields are read. -/
  reads : kind.read = (((Record.of make).required metadata.keyField Shape.text).withDefault field
    shape absent).read
  /-- The field is not the key. -/
  field_ne_key : field ≠ metadata.keyField
  /-- The field is not the identity. -/
  field_ne_identity : field ≠ identityField

/-- Such an entity is loaded with the key that is asked for and with what is read of the value that
the document has in the field. -/
theorem ReadsField.run_load_iff {kind : StructuredKind β} {make : String → α → β} {field : String}
    {shape : Shape α} {absent : α} {entity : β}
    (h : ReadsField kind metadata make field shape absent)
    (hfind : Finds backend service metadata.collection key document)
    (hdistinct : Pairs.Distinct document) :
    ((Facade.load kind key).run backend service).1 = .done (some entity) ↔
      ∃ part, entity = make key part ∧
        (Pairs.get? field document = none ∧ part = absent ∨
          ∃ value, Pairs.get? field document = some value ∧
            shape value.toJson.reread = .ok part) := by
  have hfield := Codec.get?_pairsRead_of_ne h.field_ne_key h.field_ne_identity document key
  have hkeyField := Codec.get?_pairsRead_key metadata document key
  rw [Facade.run_load_eq_some_iff h.resolves hfind, h.reads]
  constructor
  · intro hread
    obtain ⟨_, part, hfirst, rfl, hpart⟩ := Record.build_field_eq_ok (Record.build_eq_ok hread)
    obtain ⟨_, name, hmake, rfl, hname⟩ := Record.build_field_eq_ok hfirst
    obtain rfl := Except.ok.inj hmake
    -- The key that is read is the one that has been put there.
    obtain ⟨json, hjson, htext⟩ := hname.resolve_right (by simp)
    obtain rfl := Option.some.inj (hkeyField.symm.trans hjson)
    obtain rfl := Except.ok.inj htext
    refine ⟨part, rfl, ?_⟩
    rw [hfield] at hpart
    rcases hpart with ⟨shown, hshown, hshape⟩ | ⟨hnone, habsent⟩
    · obtain ⟨value, hvalue, rfl⟩ := Option.map_eq_some_iff.mp hshown
      exact .inr ⟨value, hvalue, hshape⟩
    · exact .inl ⟨Option.map_eq_none_iff.mp hnone, (Option.some.inj habsent).symm⟩
  · rintro ⟨part, rfl, hpart⟩
    have hfits : ((Record.of make).required metadata.keyField Shape.text).Fits
        (Codec.pairsRead metadata document key) (make key) :=
      (Record.fits_of make _).there hkeyField rfl none
    rcases hpart with ⟨hnone, rfl⟩ | ⟨value, hvalue, hshape⟩
    · rw [hnone] at hfield
      exact (hfits.absent hfield shape part).read_eq (Codec.distinct_pairsRead hdistinct)
    · rw [hvalue] at hfield
      exact (hfits.there hfield hshape _).read_eq (Codec.distinct_pairsRead hdistinct)

end

variable {σ : Type} {backend : Backend σ} {service : Service σ} {key : String}
  {document : Document}

namespace PlayerLevel

/-- The experience that a document holds: what its field counts as, and none without the field. -/
def StoredExperience (document : Document) (experience : Int64) : Prop :=
  Pairs.get? "experience" document = none ∧ experience = 0 ∨
    ∃ value, Pairs.get? "experience" document = some value ∧ value.CountsAs experience.toInt

/-- Player levels have the experience beside their key, which is zero if it is not there. -/
theorem readsField : ReadsField kind ⟨"PlayerLevelData", "player_levels", "playerId"⟩
    PlayerLevel.mk "experience" Shape.int64 0 where
  resolves := rfl
  reads := rfl
  field_ne_key := by decide
  field_ne_identity := by decide

/-- The level of a player is loaded with the experience that the document holds. -/
theorem run_load_iff (hfind : Finds backend service "player_levels" key document)
    (hdistinct : Pairs.Distinct document) {record : PlayerLevel} :
    ((Facade.load kind key).run backend service).1 = .done (some record) ↔
      record.playerId = key ∧ StoredExperience document record.experience := by
  rw [readsField.run_load_iff hfind hdistinct]
  simp only [Shape.int64_toJson_iff]
  constructor
  · rintro ⟨experience, rfl, hholds⟩
    exact ⟨rfl, hholds⟩
  · rintro ⟨rfl, hholds⟩
    exact ⟨record.experience, rfl, hholds⟩

end PlayerLevel

namespace PlayerStats

/-- The counters that a document holds: what the values of its field count as, and none without the
field. -/
def StoredCounters (document : Document) (stats : NameMap Int64) : Prop :=
  Pairs.get? "stats" document = none ∧ stats = .empty ∨
    ∃ inner, Pairs.get? "stats" document = some (.document inner) ∧
      Document.Counts inner stats.pairs

/-- Every counter stands in the document, as a value that counts as it. -/
theorem StoredCounters.exists_of_get? {stats : NameMap Int64} (h : StoredCounters document stats)
    {name : String} {n : Int64} (hcounter : stats.get? name = some n) :
    ∃ inner value, Pairs.get? "stats" document = some (.document inner) ∧
      Pairs.get? name inner = some value ∧ value.CountsAs n.toInt := by
  rcases h with ⟨-, rfl⟩ | ⟨inner, hinner, hcounts⟩
  · simp at hcounter
  · obtain ⟨value, hvalue, hn⟩ := hcounts.get?_iff.mp hcounter
    exact ⟨inner, value, hinner, hvalue, hn⟩

/-- Statistics have the counters beside their key, which are none if they are not there. -/
theorem readsField : ReadsField kind ⟨"PlayerStatsData", "player_stats", "playerId"⟩
    PlayerStats.mk "stats" (Shape.mapOf Shape.int64) .empty where
  resolves := rfl
  reads := rfl
  field_ne_key := by decide
  field_ne_identity := by decide

/-- The statistics of a player are loaded with the counters that the document holds. -/
theorem run_load_iff (hfind : Finds backend service "player_stats" key document)
    (hdistinct : Pairs.Distinct document)
    (hnames : ∀ inner, Pairs.get? "stats" document = some (.document inner) → Pairs.Distinct inner)
    {record : PlayerStats} :
    ((Facade.load kind key).run backend service).1 = .done (some record) ↔
      record.playerId = key ∧ StoredCounters document record.stats := by
  rw [readsField.run_load_iff hfind hdistinct]
  constructor
  · rintro ⟨stats, rfl, hnone | ⟨value, hget, hmap⟩⟩
    · exact ⟨rfl, .inl hnone⟩
    · obtain ⟨inner, rfl, hcounts⟩ :=
        Shape.exists_counts_of_mapOf_toJson (fun inner h => hnames inner (h ▸ hget)) hmap
      exact ⟨rfl, .inr ⟨inner, hget, hcounts⟩⟩
  · rintro ⟨rfl, hnone | ⟨inner, hget, hcounts⟩⟩
    · exact ⟨record.stats, rfl, .inl hnone⟩
    · exact ⟨record.stats, rfl, .inr ⟨_, hget, Shape.mapOf_toJson_of_counts hcounts⟩⟩

end PlayerStats

namespace ProfileV2

/-- The numbers of a profile are loaded of integers that they are. -/
theorem isInteger_of_run_load (hfind : Finds backend service "profiles" key document)
    {profile : ProfileV2}
    (h : ((Facade.load kind key).run backend service).1 = .done (some profile)) :
    (∃ value, Pairs.get? "level" document = some value ∧ value.IsInteger profile.level.toNat) ∧
      ∃ value, Pairs.get? "rank" document = some value ∧ value.IsInteger profile.rank.toInt := by
  have hresolve : kind.declaration.resolve = .ok ⟨"ProfileV2", "profiles", "key"⟩ := rfl
  rw [Facade.run_load_eq_some_iff hresolve hfind] at h
  -- The fields are taken off the record from the last one on.
  obtain ⟨_, _, hactive, rfl, -⟩ := Record.build_field_eq_ok (Record.build_eq_ok h)
  obtain ⟨_, _, hranked, rfl, -⟩ := Record.build_field_eq_ok hactive
  obtain ⟨_, rank, hlevelled, rfl, hrank⟩ := Record.build_field_eq_ok hranked
  obtain ⟨_, level, hnamed, rfl, hlevel⟩ := Record.build_field_eq_ok hlevelled
  obtain ⟨_, _, hkeyed, rfl, -⟩ := Record.build_field_eq_ok hnamed
  obtain ⟨_, _, hmake, rfl, -⟩ := Record.build_field_eq_ok hkeyed
  obtain rfl := Except.ok.inj hmake
  obtain ⟨value, hvalue, hread⟩ := Codec.exists_stored_of_required (by decide) (by decide) hlevel
  obtain ⟨other, hother, hranks⟩ := Codec.exists_stored_of_required (by decide) (by decide) hrank
  exact ⟨⟨value, hvalue, Shape.uint8_toJson_iff.mp hread⟩,
    ⟨other, hother, Shape.int32_toJson_iff.mp hranks⟩⟩

end ProfileV2

/-- The integers of the entities that a backend finds in a document under a key: each is read of
itself or of a date outside the range of instants, never of another value. -/
structure LoadsStoredIntegers (backend : Backend σ) (service : Service σ) (key : String)
    (document : Document) : Prop where
  /-- The experience of a player level is the one that the document holds, and where it holds none
  nothing is loaded. -/
  experience : Finds backend service "player_levels" key document → ∀ record : PlayerLevel,
    ((Facade.load PlayerLevel.kind key).run backend service).1 = .done (some record) ↔
      record.playerId = key ∧ PlayerLevel.StoredExperience document record.experience
  /-- The counters of statistics are those that the document holds, and where it holds none nothing
  is loaded. -/
  counters : Finds backend service "player_stats" key document → ∀ record : PlayerStats,
    ((Facade.load PlayerStats.kind key).run backend service).1 = .done (some record) ↔
      record.playerId = key ∧ PlayerStats.StoredCounters document record.stats
  /-- Every single counter is the value of the document under its name. -/
  counter : ∀ stats, PlayerStats.StoredCounters document stats →
    ∀ name n, stats.get? name = some n →
      ∃ inner value, Pairs.get? "stats" document = some (.document inner) ∧
        Pairs.get? name inner = some value ∧ value.CountsAs n.toInt
  /-- The two numbers of a profile are too small for such a date, so they are always read of
  themselves. -/
  profile : Finds backend service "profiles" key document → ∀ profile : ProfileV2,
    ((Facade.load ProfileV2.kind key).run backend service).1 = .done (some profile) →
      (∃ value, Pairs.get? "level" document = some value ∧
        value.IsInteger profile.level.toNat) ∧
      ∃ value, Pairs.get? "rank" document = some value ∧
        value.IsInteger profile.rank.toInt

/-- On every backend, whatever a document holds, the integers that are loaded are those that it
holds. -/
theorem load_reads_stored_integers (backend : Backend σ) (service : Service σ) (key : String)
    (hdistinct : Pairs.Distinct document)
    (hnames : ∀ inner, Pairs.get? "stats" document = some (.document inner) →
      Pairs.Distinct inner) :
    LoadsStoredIntegers backend service key document where
  experience hfind _ := PlayerLevel.run_load_iff hfind hdistinct
  counters hfind _ := PlayerStats.run_load_iff hfind hdistinct hnames
  counter _ hstored _ _ := hstored.exists_of_get?
  profile hfind _ := ProfileV2.isInteger_of_run_load hfind

/-- A document whose experience is the last date of all is loaded with its number of milliseconds,
and one whose experience is a date in the range of instants is not loaded with any number. -/
theorem load_reads_stored_integers_dates :
    let document (millis : Int64) : Document :=
      [("_id", .string "p"), ("experience", .dateTime millis)]
    let shelf := (Shelf.empty.put ⟨"player_levels", "last"⟩ (document 9223372036854775807)).put
      ⟨"player_levels", "first"⟩ (document 0)
    let service := Service.on (.opened shelf) .collect
    ((Facade.load PlayerLevel.kind "last").run Memory.backend service).1 =
        .done (some ⟨"last", 9223372036854775807⟩) ∧
      ∀ record,
        ((Facade.load PlayerLevel.kind "first").run Memory.backend service).1 ≠
          .done (some record) := by
  intro document shelf service
  have hdistinct : ∀ millis, Pairs.Distinct (document millis) := by
    intro millis
    simp [Pairs.Distinct, Pairs.names, document]
  have hnames : ∀ millis inner, Pairs.get? "stats" (document millis) = some (.document inner) →
      Pairs.Distinct inner := by
    intro millis inner h
    exact absurd h (by simp [document, Pairs.get?])
  have hloads := fun key millis =>
    load_reads_stored_integers Memory.backend service key (hdistinct millis) (hnames millis)
  constructor
  · exact ((hloads "last" 9223372036854775807).experience rfl _).mpr
      ⟨rfl, .inr ⟨_, rfl, .date (by decide)⟩⟩
  · intro record hload
    obtain ⟨-, hread⟩ := ((hloads "first" 0).experience rfl record).mp hload
    rcases hread with ⟨hnone, -⟩ | ⟨value, hvalue, hcounts⟩
    · exact absurd hnone (by simp [document, Pairs.get?])
    · obtain rfl : Bson.dateTime 0 = value := by simpa [document, Pairs.get?] using hvalue
      exact absurd hcounts.not_inRange (by decide)

/-- It is not true that the experience of a player is always an integer of the document. -/
theorem not_forall_load_reads_integers :
    ¬ ∀ (document : Document) (key : String) (service : Service Memory) (record : PlayerLevel),
      Pairs.Distinct document → Finds Memory.backend service "player_levels" key document →
      ((Facade.load PlayerLevel.kind key).run Memory.backend service).1 = .done (some record) →
        Pairs.get? "experience" document = none ∧ record.experience = 0 ∨
          ∃ value, Pairs.get? "experience" document = some value ∧
            value.IsInteger record.experience.toInt := by
  intro h
  let document : Document := [("_id", .string "p"), ("experience", .dateTime 9223372036854775807)]
  let shelf := Shelf.empty.put ⟨"player_levels", "p"⟩ document
  let service := Service.on (Memory.opened shelf) .collect
  let record : PlayerLevel := ⟨"p", 9223372036854775807⟩
  have hfind : Finds Memory.backend service "player_levels" "p" document := rfl
  have hdistinct : Pairs.Distinct document := by simp [Pairs.Distinct, Pairs.names, document]
  have hholds : PlayerLevel.StoredExperience document record.experience :=
    .inr ⟨_, rfl, .date (by decide)⟩
  have hload := (PlayerLevel.run_load_iff hfind hdistinct).mpr ⟨rfl, hholds⟩
  rcases h document "p" service record hdistinct hfind hload with
    ⟨hnone, -⟩ | ⟨value, hvalue, hinteger⟩
  · exact absurd hnone (by simp [document, Pairs.get?])
  · obtain rfl : Bson.dateTime 9223372036854775807 = value := by
      simpa [document, Pairs.get?] using hvalue
    cases hinteger

end KeyedStore
