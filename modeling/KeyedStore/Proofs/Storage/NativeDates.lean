import KeyedStore.Proofs.Calendar.InstantText
import KeyedStore.Proofs.Codec.Decoding
import KeyedStore.Proofs.Storage.Settling
import KeyedStore.Repository.Memory
import KeyedStore.Specimen.Records

/-!
# Native dates

A date that another program has stored is a number of milliseconds, or a number of seconds beside a
counter. It is shown as a text, and the text is read as an instant again. A number of milliseconds
that is no instant is shown as a number, which no field of an instant takes.

- `Instant.IsMillis`: an instant lies at a number of milliseconds, to the nanosecond;
- `Shape.instant_instantJson`, `Shape.instant_instantJson_of_outside`: what is read of what is
  shown;
- `LoadsNativeDates`: entities of a kind have the instants of their documents, or are not loaded;
- `native_dates_load`: profiles and planets do.

## References

- SPEC_FULL.md, section 8, Date fidelity; section 10.4, dates in the bridge to JSON
-/

namespace KeyedStore

/-! ## Instants of milliseconds -/

namespace Instant

/-- The number of milliseconds lies in the range of instants. -/
def InRange (millis : Int) : Prop :=
  -8334601228800000 ≤ millis ∧ millis ≤ 8210266876799999

/-- Whether it does is decidable. -/
instance (millis : Int) : Decidable (InRange millis) :=
  inferInstanceAs (Decidable (_ ∧ _))

/-- An instant lies at a number of milliseconds since the beginning of 1970, exactly, and in no leap
second. -/
def IsMillis (instant : Instant) (millis : Int) : Prop :=
  instant.nanos < 1000000000 ∧
    instant.seconds * 1000000000 + instant.nanos = millis * 1000000

/-- Milliseconds in the range are an instant that is written with no more than milliseconds. -/
theorem exists_ofMillis?_eq {millis : Int} (h : InRange millis) :
    ∃ instant, ofMillis? millis = some instant ∧ instant.IsMillis millis ∧
      instant.shownNanos % 1000000 = 0 := by
  -- Seconds are rounded down, so the rest is never negative, not even before 1970.
  obtain ⟨hlow, hhigh⟩ := h
  have hrange : -8334601228800 ≤ millis / 1000 ∧ millis / 1000 ≤ 8210266876799 := by omega
  have hfit : (millis % 1000).toNat * 1000000 < 1000000000 := by omega
  refine ⟨⟨_, _, hrange, .inl hfit⟩, ?_, ⟨hfit, ?_⟩, ?_⟩
  · rw [ofMillis?, ofParts?, dif_pos hrange, dif_pos (.inl hfit)]
  · dsimp only
    omega
  · have hleap : ¬ 1000000000 ≤ (millis % 1000).toNat * 1000000 := by omega
    simp only [shownNanos, isLeap, hleap, decide_false, Bool.false_eq_true, ↓reduceIte]
    omega

/-- Milliseconds out of the range are no instant. -/
theorem ofMillis?_eq_none {millis : Int} (h : ¬ InRange millis) : ofMillis? millis = none := by
  have hrange : ¬ (-8334601228800 ≤ millis / 1000 ∧ millis / 1000 ≤ 8210266876799) := by
    intro hrange
    exact h ⟨by omega, by omega⟩
  rw [ofMillis?, ofParts?, dif_neg hrange]

end Instant

namespace Shape

/-- What is shown for a number of milliseconds is read as the instant. -/
theorem instant_instantJson {millis : Int} (h : Instant.InRange millis) :
    ∃ value : Instant, instant (Bson.instantJson millis).reread = .ok value ∧
      value.IsMillis millis := by
  obtain ⟨value, hvalue, hmillis, hexact⟩ := Instant.exists_ofMillis?_eq h
  refine ⟨value, ?_, hmillis⟩
  rw [Bson.instantJson, timestampOfMillis?, hvalue, Option.map_some, Json.reread, instant,
    Instant.ofText?_millisText hexact]

/-- A number of milliseconds without an instant is not read at all. -/
theorem instant_instantJson_of_outside {millis : Int} (h : ¬ Instant.InRange millis)
    (value : Instant) : instant (Bson.instantJson millis).reread ≠ .ok value := by
  rw [Bson.instantJson, timestampOfMillis?, Instant.ofMillis?_eq_none h]
  simp [Json.reread, instant]

/-- A shape that takes no doubles: the text of what it reads is read alike. -/
def Steady {α : Type} (shape : Shape α) : Prop :=
  ∀ json value, shape json = .ok value → shape json.reread = .ok value

/-- Texts are read alike after they have been written and read. -/
theorem steady_text : Steady text := by
  intro json value h
  cases json with
  | string _ => exact h
  | _ => exact absurd h (by simp [text])

variable {α : Type} {shape : Shape α}

/-- Null is read again as null, and nothing else is. -/
theorem isNull_reread (json : Json) : json.reread.isNull = json.isNull := by
  cases json <;> rfl

/-- A value that may be missing is read alike after it has been written and read, if the value is.
-/
theorem Steady.optional (h : Steady shape) : Steady shape.optional := by
  intro json value hread
  cases hnull : json.isNull with
  | true =>
    cases json with
    | null => exact hread
    | _ => exact absurd hnull (by simp [Json.isNull])
  | false =>
    have hmap : shape.optional json = (shape json).map some := by
      cases json with
      | null => exact absurd hnull (by decide)
      | _ => rfl
    rw [hmap] at hread
    cases hpart : shape json with
    | error fault => exact absurd hread (by simp [hpart, Except.map])
    | ok part =>
      rw [hpart] at hread
      rw [← Except.ok.inj hread]
      exact optional_eq (h json part hpart) ((isNull_reread json).trans hnull)

/-- A list is read alike after it has been written and read, if its items are. -/
theorem Steady.listOf (h : Steady shape) : Steady shape.listOf := by
  -- The items are read one by one, so the induction is on the list.
  have hitems : ∀ items values, items.mapM shape = .ok values →
      (Json.rereadItems items).mapM shape = .ok values := by
    intro items
    induction items with
    | nil =>
      intro values hread
      exact hread
    | cons item items ih =>
      intro values hread
      rw [List.mapM_cons] at hread
      cases hitem : shape item with
      | error fault => exact absurd hread (by simp [hitem, bind, Except.bind])
      | ok value =>
        cases hrest : items.mapM shape with
        | error fault => exact absurd hread (by simp [hitem, hrest, bind, Except.bind])
        | ok rest =>
          rw [hitem, hrest] at hread
          rw [Json.rereadItems, List.mapM_cons, h item value hitem, ih rest hrest]
          exact hread
  intro json values hread
  cases json with
  | array items => exact hitems items values hread
  | _ => exact absurd hread (by simp [Shape.listOf])

end Shape

/-! ## Fields of documents -/

namespace Document

variable {α : Type}

/-- A field is there, and what is shown of its value has a shape. -/
def Has (document : Document) (name : String) (shape : Shape α) : Prop :=
  ∃ value part, Pairs.get? name document = some value ∧ shape value.toJson = .ok part

/-- A field is not there, or what is shown of its value has a shape. -/
def MayHave (document : Document) (name : String) (shape : Shape α) : Prop :=
  ∀ value, Pairs.get? name document = some value → ∃ part, shape value.toJson = .ok part

end Document

namespace Record

open Codec

variable {α β : Type} {metadata : Metadata} {document : Document} {key : String}

/-- The key is read from under its own name. -/
theorem Fits.optionalKey {record : Record (Option String → β)} {partly : Option String → β}
    (h : record.Fits (pairsRead metadata document key) partly) :
    (record.optional metadata.keyField Shape.text).Fits (pairsRead metadata document key)
      (partly (some key)) :=
  h.there (get?_pairsRead_key metadata document key) rfl (some none)

/-- A field that a document has is read. -/
theorem Fits.has {record : Record (α → β)} {partly : α → β}
    (h : record.Fits (pairsRead metadata document key) partly) {name : String} {shape : Shape α}
    (hsteady : shape.Steady) (hhas : Document.Has document name shape)
    (hkey : name ≠ metadata.keyField) (hidentity : name ≠ identityField) :
    ∃ part, (record.required name shape).Fits (pairsRead metadata document key) (partly part) := by
  obtain ⟨value, part, hget, hpart⟩ := hhas
  have hread := get?_pairsRead_of_ne hkey hidentity document key
  rw [hget] at hread
  exact ⟨part, h.there hread (hsteady _ _ hpart) none⟩

/-- A field that a document may have is read, or it is missing. -/
theorem Fits.mayHave {record : Record (Option α → β)} {partly : Option α → β}
    (h : record.Fits (pairsRead metadata document key) partly) {name : String} {shape : Shape α}
    (hsteady : shape.Steady) (hmay : Document.MayHave document name shape.optional)
    (hkey : name ≠ metadata.keyField) (hidentity : name ≠ identityField) :
    ∃ part, (record.optional name shape).Fits (pairsRead metadata document key) (partly part) := by
  have hread := get?_pairsRead_of_ne hkey hidentity document key
  cases hget : Pairs.get? name document with
  | none =>
    rw [hget] at hread
    exact ⟨none, h.absent hread shape.optional none⟩
  | some value =>
    rw [hget] at hread
    obtain ⟨part, hpart⟩ := hmay value hget
    exact ⟨part, h.there hread (hsteady.optional _ _ hpart) (some none)⟩

end Record

/-! ## Loading a document that is found -/

namespace Kind

variable {σ α : Type} (kind : Kind α) {metadata : Metadata} {backend : Backend σ}
  {service : Service σ} {key : String} {document : Document}

/-- A document that is found is decoded, whatever the backend. -/
theorem run_load_of_found (hresolve : kind.declaration.resolve = .ok metadata)
    (hfind : (backend.perform (.find ⟨metadata.collection, key⟩) service.state).1 =
      .ok (some document)) :
    let steps := Outcome.ofExcept ((kind.decode service.options document key).map some)
    ((kind.load key).run backend service).1 = (Operation.load kind key).settled steps ∧
      (kind.load key).reports backend service = (Operation.load kind key).reported steps := by
  have htrace : (kind.loadSteps key).trace backend service.options service.state =
      ⟨.ofExcept ((kind.decode service.options document key).map some),
        (backend.perform (.find ⟨metadata.collection, key⟩) service.state).2, []⟩ := by
    simp only [loadSteps, hresolve, Routine.trace_bind, Routine.trace_ofExcept, Routine.trace_find,
      Outcome.ofExcept, hfind, Routine.trace_codec]
    -- Nothing is told while a document is decoded.
    cases kind.decode service.options document key <;> rfl
  obtain ⟨houtcome, hreports, -⟩ :=
    Operation.run_of_trace_steps backend (.load kind key) rfl htrace
  exact ⟨houtcome, hreports⟩

end Kind

/-! ## Native dates -/

section

variable {σ α : Type} (kind : StructuredKind α) (date : α → Instant) (backend : Backend σ)
  (service : Service σ) (key : String)

/-- An entity is loaded without a report, and its date lies at a number of milliseconds. -/
def LoadsInstant (millis : Int) : Prop :=
  ∃ entity, ((Facade.load kind key).run backend service).1 = .done (some entity) ∧
    (Facade.load kind key).reports backend service = [] ∧ (date entity).IsMillis millis

/-- Nothing is loaded, and there is exactly one report, of a serialization error. -/
def LoadsNothing : Prop :=
  ((Facade.load kind key).run backend service).1 = .done none ∧
    ∃ error : StoreError, error.kind = .serialization ∧
      (Facade.load kind key).reports backend service =
        [⟨"load_structured", kind.declaration.collection, key, kind.declaration.typeName, error⟩]

end

/-- Entities of a kind have the dates of their documents, exactly, or they are not loaded. -/
def LoadsNativeDates {α : Type} (kind : StructuredKind α) (field : String) (date : α → Instant)
    (WellTyped : Document → Prop) : Prop :=
  ∀ {σ : Type} (backend : Backend σ) (service : Service σ) (key : String) (document : Document),
    (backend.perform (.find ⟨kind.declaration.collection, key⟩) service.state).1 =
      .ok (some document) →
    Pairs.Distinct document → WellTyped document →
    (∀ millis : Int64, Pairs.get? field document = some (.dateTime millis) →
      if Instant.InRange millis.toInt then
        LoadsInstant kind date backend service key millis.toInt
      else LoadsNothing kind backend service key) ∧
    ∀ time increment : UInt32, Pairs.get? field document = some (.timestamp time increment) →
      LoadsInstant kind date backend service key (time.toNat * 1000)

/-- A kind of entities has its date under a field of its own, and reads a document whose other
fields are well-typed as soon as the date can be read. -/
structure ReadsDate {α : Type} (kind : StructuredKind α) (field : String) (date : α → Instant)
    (WellTyped : Document → Prop) (metadata : Metadata) : Prop where
  /-- The declaration keeps the rules. -/
  resolves : kind.declaration.resolve = .ok metadata
  /-- The date is not the key. -/
  field_ne_key : field ≠ metadata.keyField
  /-- The date is not the identity. -/
  field_ne_identity : field ≠ identityField
  /-- A document is read as soon as its date can be read. -/
  reads : ∀ {document : Document} (key : String) {value : Bson} {instant : Instant},
    Pairs.Distinct document → WellTyped document → Pairs.get? field document = some value →
    Shape.instant value.toJson.reread = .ok instant →
    ∃ entity, kind.read (.object (Codec.pairsRead metadata document key)) = .ok entity ∧
      date entity = instant
  /-- The date of an entity has been read from its field. -/
  has_read : ∀ {pairs : List (String × Json)} {entity : α},
    kind.read (.object pairs) = .ok entity →
    ∃ json, Pairs.get? field pairs = some json ∧ Shape.instant json = .ok (date entity)

namespace ReadsDate

variable {σ α : Type} {kind : StructuredKind α} {field : String} {date : α → Instant}
  {WellTyped : Document → Prop} {metadata : Metadata} {backend : Backend σ} {service : Service σ}
  {key : String} {document : Document} {millis : Int}

/-- A date that is an instant is loaded exactly. -/
theorem loadsInstant (h : ReadsDate kind field date WellTyped metadata)
    (hfind : (backend.perform (.find ⟨metadata.collection, key⟩) service.state).1 =
      .ok (some document))
    (hdistinct : Pairs.Distinct document) (htyped : WellTyped document) {value : Bson}
    (hget : Pairs.get? field document = some value)
    (hshown : value.toJson = Bson.instantJson millis) (hrange : Instant.InRange millis) :
    LoadsInstant kind date backend service key millis := by
  obtain ⟨instant, hinstant, hmillis⟩ := Shape.instant_instantJson hrange
  rw [← hshown] at hinstant
  obtain ⟨entity, hread, rfl⟩ := h.reads key hdistinct htyped hget hinstant
  have hdecode : Codec.decode kind service.options document key = .ok entity :=
    (Codec.decode_eq_ok_iff service.options h.resolves).mpr hread
  obtain ⟨hrun, hreports⟩ := (Kind.structured kind).run_load_of_found h.resolves hfind
  simp only [Kind.decode, hdecode] at hrun hreports
  exact ⟨entity, hrun, hreports, hmillis⟩

/-- A date that is no instant is reported, and nothing is loaded. -/
theorem loadsNothing (h : ReadsDate kind field date WellTyped metadata)
    (hfind : (backend.perform (.find ⟨metadata.collection, key⟩) service.state).1 =
      .ok (some document))
    {value : Bson} (hget : Pairs.get? field document = some value)
    (hshown : value.toJson = Bson.instantJson millis) (hrange : ¬ Instant.InRange millis) :
    LoadsNothing kind backend service key := by
  have hfield :=
    Codec.get?_pairsRead_of_ne h.field_ne_key h.field_ne_identity document key
  rw [hget, Option.map_some, hshown] at hfield
  cases hread : kind.read (.object (Codec.pairsRead metadata document key)) with
  | ok entity =>
    -- The date would have been read from a number.
    obtain ⟨json, hjson, hinstant⟩ := h.has_read hread
    rw [hfield] at hjson
    rw [← Option.some.inj hjson] at hinstant
    exact absurd hinstant (Shape.instant_instantJson_of_outside hrange _)
  | error fault =>
    obtain ⟨excerpt, hdecode⟩ := Codec.decode_of_fault service.options h.resolves hread
    obtain ⟨hrun, hreports⟩ := (Kind.structured kind).run_load_of_found h.resolves hfind
    simp only [Kind.decode, hdecode] at hrun hreports
    exact ⟨hrun, _, rfl, hreports⟩

/-- Entities of such a kind have the dates of their documents. -/
theorem loadsNativeDates (h : ReadsDate kind field date WellTyped metadata) :
    LoadsNativeDates kind field date WellTyped := by
  intro σ backend service key document hfind hdistinct htyped
  have hcollection : kind.declaration.collection = metadata.collection := by
    rw [Declaration.eq_of_resolve h.resolves]
  rw [hcollection] at hfind
  constructor
  · intro millis hget
    split_ifs with hrange
    · exact h.loadsInstant hfind hdistinct htyped hget rfl hrange
    · exact h.loadsNothing hfind hget rfl hrange
  · intro time increment hget
    -- A number of seconds of thirty-two bits always lies in the range of instants.
    have htime := time.toNat_lt
    exact h.loadsInstant hfind hdistinct htyped hget rfl ⟨by omega, by omega⟩

end ReadsDate

/-! ## Profiles and planets -/

namespace Profile

/-- The fields of a profile beside its key and its date are well-typed. -/
def WellTyped (document : Document) : Prop :=
  Document.Has document "name" Shape.text ∧
    Document.MayHave document "nickname" Shape.text.optional

/-- Profiles have one instant, that of joining. -/
theorem readsDate :
    ReadsDate kind "joined" joined WellTyped ⟨"Profile", "profiles", "key"⟩ where
  resolves := rfl
  field_ne_key := by decide
  field_ne_identity := by decide
  reads {document} key {value instant} hdistinct htyped hget hinstant := by
    obtain ⟨hname, hnickname⟩ := htyped
    have hfield : Pairs.get? "joined"
        (Codec.pairsRead ⟨"Profile", "profiles", "key"⟩ document key) =
          (Pairs.get? "joined" document).map _ :=
      Codec.get?_pairsRead_of_ne (by decide) (by decide) document key
    rw [hget] at hfield
    -- The fields are read in the order of the record: the key, the name, the date, the nickname.
    have hkeyFits : ((Record.of mk).optional "key" Shape.text).Fits _ _ :=
      (Record.fits_of mk (Codec.pairsRead ⟨"Profile", "profiles", "key"⟩ document key)).optionalKey
    obtain ⟨_, hnameFits⟩ := hkeyFits.has Shape.steady_text hname (by decide) (by decide)
    have hdateFits := hnameFits.there hfield hinstant none
    obtain ⟨_, hfits⟩ := hdateFits.mayHave Shape.steady_text hnickname (by decide) (by decide)
    exact ⟨_, hfits.read_eq (Codec.distinct_pairsRead hdistinct), rfl⟩
  has_read h := by
    obtain ⟨_, _, hdate, rfl, -⟩ := Record.build_field_eq_ok (Record.build_eq_ok h)
    obtain ⟨_, _, hname, rfl, hread⟩ := Record.build_field_eq_ok hdate
    obtain ⟨_, _, hkey, rfl, -⟩ := Record.build_field_eq_ok hname
    obtain ⟨_, _, hmk, rfl, -⟩ := Record.build_field_eq_ok hkey
    obtain rfl := Except.ok.inj hmk
    exact hread.resolve_right (by simp)

end Profile

namespace Planet

/-- The fields of a planet beside its key and its date are well-typed. -/
def WellTyped (document : Document) : Prop :=
  Document.Has document "display_name" Shape.text ∧
    Document.MayHave document "nickname" Shape.text.optional ∧
    Document.Has document "citizens" Shape.text.listOf

/-- Planets have one instant, that of their creation. -/
theorem readsDate :
    ReadsDate kind "created_at" createdAt WellTyped ⟨"Planet", "planets", "planet_id"⟩ where
  resolves := rfl
  field_ne_key := by decide
  field_ne_identity := by decide
  reads {document} key {value instant} hdistinct htyped hget hinstant := by
    obtain ⟨hname, hnickname, hcitizens⟩ := htyped
    have hfield : Pairs.get? "created_at"
        (Codec.pairsRead ⟨"Planet", "planets", "planet_id"⟩ document key) =
          (Pairs.get? "created_at" document).map _ :=
      Codec.get?_pairsRead_of_ne (by decide) (by decide) document key
    rw [hget] at hfield
    have hkeyFits : ((Record.of mk).optional "planet_id" Shape.text).Fits _ _ :=
      (Record.fits_of mk
        (Codec.pairsRead ⟨"Planet", "planets", "planet_id"⟩ document key)).optionalKey
    obtain ⟨_, hnameFits⟩ := hkeyFits.has Shape.steady_text hname (by decide) (by decide)
    have hdateFits := hnameFits.there hfield hinstant none
    obtain ⟨_, hnicknameFits⟩ :=
      hdateFits.mayHave Shape.steady_text hnickname (by decide) (by decide)
    obtain ⟨_, hfits⟩ :=
      hnicknameFits.has Shape.steady_text.listOf hcitizens (by decide) (by decide)
    exact ⟨_, hfits.read_eq (Codec.distinct_pairsRead hdistinct), rfl⟩
  has_read h := by
    obtain ⟨_, _, hnickname, rfl, -⟩ := Record.build_field_eq_ok (Record.build_eq_ok h)
    obtain ⟨_, _, hdate, rfl, -⟩ := Record.build_field_eq_ok hnickname
    obtain ⟨_, _, hname, rfl, hread⟩ := Record.build_field_eq_ok hdate
    obtain ⟨_, _, hkey, rfl, -⟩ := Record.build_field_eq_ok hname
    obtain ⟨_, _, hmk, rfl, -⟩ := Record.build_field_eq_ok hkey
    obtain rfl := Except.ok.inj hmk
    exact hread.resolve_right (by simp)

end Planet

/-- On every backend, profiles and planets whose other fields are well-typed have the dates of their
documents: a number of milliseconds in the range of instants is loaded exactly, without a report,
and so is every number of seconds of a time stamp; a number outside the range is reported once, and
nothing is loaded. -/
theorem native_dates_load :
    LoadsNativeDates Profile.kind "joined" Profile.joined Profile.WellTyped ∧
      LoadsNativeDates Planet.kind "created_at" Planet.createdAt Planet.WellTyped :=
  ⟨Profile.readsDate.loadsNativeDates, Planet.readsDate.loadsNativeDates⟩

/-- The last millisecond in the range of instants and the first one behind it, in the documents of
two profiles that hold a double among other fields. -/
theorem native_dates_load_profiles :
    let document (millis : Int64) : Document := [("_id", .string "p"), ("name", .string "Ann"),
      ("score", .double ⟨4609434218613702656⟩), ("joined", .dateTime millis)]
    let shelf := (Shelf.empty.put ⟨"profiles", "last"⟩ (document 8210266876799999)).put
      ⟨"profiles", "beyond"⟩ (document 8210266876800000)
    let service := Service.on (.opened shelf) .collect
    LoadsInstant Profile.kind Profile.joined Memory.backend service "last" 8210266876799999 ∧
      LoadsNothing Profile.kind Memory.backend service "beyond" := by
  intro document shelf service
  have htyped : ∀ millis, Profile.WellTyped (document millis) := by
    intro millis
    constructor
    · exact ⟨.string "Ann", "Ann", rfl, rfl⟩
    · intro nickname hget
      exact absurd hget (by simp [document, Pairs.get?])
  have hdistinct : ∀ millis, Pairs.Distinct (document millis) := by
    intro millis
    simp [Pairs.Distinct, Pairs.names, document]
  have hlast := (native_dates_load.1 Memory.backend service "last" _ rfl (hdistinct _) (htyped _)).1
    8210266876799999 rfl
  have hbeyond := (native_dates_load.1 Memory.backend service "beyond" _ rfl (hdistinct _)
    (htyped _)).1 8210266876800000 rfl
  rw [if_pos (by decide)] at hlast
  rw [if_neg (by decide)] at hbeyond
  exact ⟨hlast, hbeyond⟩

end KeyedStore
