import KeyedStore.Player.Level
import KeyedStore.Player.Stats
import KeyedStore.Proofs.Calendar.InstantText
import KeyedStore.Proofs.Codec.Shown
import KeyedStore.Proofs.Entity.Fields
import KeyedStore.Specimen.Records

/-!
# Entities that their documents keep

An entity is lossless if its fields are plain and its kind reads it back from every object that
shows them. What the object leaves out are fields without a value, and a kind must read such a
field as one that has none.

- `Lossless.exists_encode`: a lossless entity with a key is encoded, and its document is decoded to
  it, whatever the options on either side;
- `PlayerLevel.lossless` and its companions: the kinds whose entities are lossless.

## References

- SPEC_FULL.md, section 8, Round trip
-/

namespace KeyedStore

open Codec

variable {α β : Type}

/-- The fields of an entity go into a document as they are, and the entity is read back from what
is shown of them. -/
structure Lossless (kind : StructuredKind α) (metadata : Metadata) (fields : List (String × Json))
    (entity : α) : Prop where
  resolves : kind.declaration.resolve = .ok metadata
  payload : kind.payload entity = .ok (.object fields)
  distinct : Pairs.Distinct fields
  faithful : Json.FaithfulPairs fields
  keyed : ∀ {key}, kind.key entity = some key →
    Pairs.get? metadata.keyField fields = some (.string key)
  reads : ∀ {options key shown}, kind.key entity = some key →
    Shown metadata options fields key shown → kind.read (.object shown) = .ok entity

/-- A lossless entity with a key is encoded, and its document is decoded to it, whatever the
options on either side. -/
theorem Lossless.exists_encode {kind : StructuredKind α} {metadata : Metadata}
    {fields : List (String × Json)} {entity : α} (h : Lossless kind metadata fields entity)
    {key : String} (hkey : kind.key entity = some key) (hne : key ≠ "")
    (options : CodecOptions) :
    ∃ document, (encode kind options entity).value = .ok ⟨metadata.collection, key, document⟩ ∧
      ∀ other : CodecOptions, decode kind other document key = .ok entity := by
  obtain ⟨document, shown, hencode, hshown, hlegible, htext⟩ :=
    exists_encode_eq options h.resolves hkey hne h.payload h.distinct
      ⟨.string key, h.keyed hkey, options.keeps_of_not_null rfl⟩ h.faithful
  refine ⟨document, hencode, fun other => ?_⟩
  exact decode_of_shown other h.resolves hlegible htext (h.reads hkey hshown)

/-! ## Reading fields that are shown -/

namespace Codec.Shown

variable {metadata : Metadata} {options : CodecOptions} {fields shown : List (String × Json)}
  {key : String}

/-- The key is read from under its own name. -/
theorem fits_key (hshown : Shown metadata options fields key shown)
    {record : Record (String → β)} {partly : String → β} (h : record.Fits shown partly) :
    (record.required metadata.keyField Shape.text).Fits shown (partly key) :=
  h.there hshown.get?_key rfl none

/-- So is a key that an entity may lack. -/
theorem fits_optionalKey (hshown : Shown metadata options fields key shown)
    {record : Record (Option String → β)} {partly : Option String → β}
    (h : record.Fits shown partly) :
    (record.optional metadata.keyField Shape.text).Fits shown (partly (some key)) :=
  h.there hshown.get?_key rfl (some none)

/-- A field with a value is read from what is shown, whatever it would be in its absence. -/
theorem fits_field (hshown : Shown metadata options fields key shown) (name : String)
    {record : Record (α → β)} {partly : α → β} (h : record.Fits shown partly) {shape : Shape α}
    {json : Json} {value : α} (hget : Pairs.get? name fields = some json)
    (hread : shape json = .ok value) (hnull : json.isNull = false)
    (hkey : name ≠ metadata.keyField) (hid : name ≠ identityField) (absent : Option α) :
    (record.field name shape absent).Fits shown (partly value) := by
  refine h.there ?_ hread absent
  rw [hshown.get?_field hkey hid, hget, Option.filter_some_pos (options.keeps_of_not_null hnull)]

/-- A record that wants one more text reads it where the fields have it. -/
theorem fits_text (hshown : Shown metadata options fields key shown) (name : String)
    {record : Record (String → β)} {partly : String → β} (h : record.Fits shown partly)
    {value : String} (hget : Pairs.get? name fields = some (.string value))
    (hkey : name ≠ metadata.keyField) (hid : name ≠ identityField) :
    (record.required name Shape.text).Fits shown (partly value) :=
  hshown.fits_field name h hget rfl rfl hkey hid none

/-- A text that may be missing is read from what is shown, be it left out or not. -/
theorem fits_optionalText (hshown : Shown metadata options fields key shown) (name : String)
    {record : Record (Option String → β)} {partly : Option String → β}
    (h : record.Fits shown partly) {value : Option String}
    (hget : Pairs.get? name fields = some (optionalText value))
    (hkey : name ≠ metadata.keyField) (hid : name ≠ identityField) :
    (record.optional name Shape.text).Fits shown (partly value) := by
  cases value with
  | some text => exact hshown.fits_field name h hget rfl rfl hkey hid (some none)
  | none =>
    have hfield := hshown.get?_field hkey hid
    rw [hget] at hfield
    -- A missing text is kept as a null or left out, and both are read as a missing text.
    cases hkeeps : options.keeps .null with
    | true =>
      rw [optionalText, Option.filter_some_pos hkeeps] at hfield
      exact h.there hfield rfl (some none)
    | false =>
      rw [optionalText, Option.filter_some_neg (by simp [hkeeps])] at hfield
      exact h.absent hfield _ none

end Codec.Shown

namespace Shape

/-- A written instant is read back by the shape of instants. -/
theorem instant_instantText (value : Instant) : instant (instantText value) = .ok value := by
  rw [instantText, instant, Instant.ofText?_exactText]

/-- A written list of texts is read back by its shape. -/
theorem listOf_textList (values : List String) : text.listOf (textList values) = .ok values := by
  have hread : ∀ value, text (.string value) = .ok value := fun _ => rfl
  exact listOf_map hread values

/-- A table of scores is read back with the unknown ones. -/
theorem mapOf_scoresJson (scores : NameMap (Option Int64)) :
    int64.optional.mapOf (Scoreboard.scoresJson scores) = .ok scores := by
  let write (score : Option Int64) : Json := score.elim .null fun value => .whole value.toInt
  have hwrite : Scoreboard.scoresJson scores =
      .object (scores.pairs.map fun pair => (pair.1, write pair.2)) := by
    refine congrArg Json.object (List.map_congr_left fun pair _ => ?_)
    rcases pair with ⟨name, _ | value⟩ <;> rfl
  have hread : ∀ score, int64.optional (write score) = .ok score := by
    intro score
    cases score with
    | none => rfl
    | some value => exact optional_eq (int64_whole value) rfl
  rw [hwrite]
  exact mapOf_map hread scores

end Shape

/-! ## Plain fields -/

namespace Json

theorem plain_optionalText (value : Option String) : Plain (optionalText value) := by
  cases value <;> exact trivial

theorem plain_textList (values : List String) : Plain (textList values) := by
  refine plainItems_iff.mpr fun item hitem => ?_
  obtain ⟨value, -, rfl⟩ := List.mem_map.mp hitem
  exact trivial

theorem plain_int64 (n : Int64) : Plain (.whole n.toInt) :=
  ⟨n.le_toInt, n.toInt_lt⟩

theorem plain_int32 (n : Int32) : Plain (.whole n.toInt) := by
  have hlow := n.le_toInt
  have hhigh := n.toInt_lt
  exact ⟨by omega, by omega⟩

theorem plain_uint8 (n : UInt8) : Plain (.whole n.toNat) := by
  have hhigh := n.toNat_lt
  exact ⟨by omega, by omega⟩

theorem plain_scoresJson {scores : NameMap (Option Int64)}
    (h : ∀ name ∈ Pairs.names scores.pairs, ¬ HasDollar name) :
    Plain (Scoreboard.scoresJson scores) := by
  refine plainPairs_iff.mpr fun pair hpair => ?_
  obtain ⟨⟨name, score⟩, hscore, rfl⟩ := List.mem_map.mp hpair
  refine ⟨h _ (Pairs.mem_names_of_mem hscore), ?_⟩
  cases score with
  | none => exact trivial
  | some value => exact plain_int64 value

theorem plain_statsJson {stats : NameMap Int64}
    (h : ∀ name ∈ Pairs.names stats.pairs, ¬ HasDollar name) :
    Plain (PlayerStats.statsJson stats) := by
  refine plainPairs_iff.mpr fun pair hpair => ?_
  obtain ⟨counter, hcounter, rfl⟩ := List.mem_map.mp hpair
  exact ⟨h _ (Pairs.mem_names_of_mem hcounter), plain_int64 _⟩

end Json

/-! ## The kinds whose entities are lossless -/

/-- The level of a player is lossless. -/
theorem PlayerLevel.lossless (record : PlayerLevel) :
    ∃ metadata fields, Lossless kind metadata fields record := by
  refine ⟨⟨"PlayerLevelData", "player_levels", "playerId"⟩, _, rfl, rfl, ?_, ?_, ?_, ?_⟩
  · simp [Pairs.Distinct, Pairs.names]
  · exact Json.PlainPairs.faithful ⟨by decide, trivial, by decide, Json.plain_int64 _, trivial⟩
  · rintro key ⟨rfl⟩
    rfl
  · rintro options key shown ⟨rfl⟩ hshown
    have hplayer := hshown.fits_key (Record.fits_of mk shown)
    have hexperience := hshown.fits_field "experience" hplayer rfl
      (Shape.int64_whole record.experience) rfl (by decide) (by decide) (some 0)
    exact hexperience.read_eq hshown.distinct

/-- The counters of a player are lossless if BSON holds them as they are. -/
theorem PlayerStats.lossless (record : PlayerStats) (h : (statsJson record.stats).Faithful) :
    ∃ metadata fields, Lossless kind metadata fields record := by
  refine ⟨⟨"PlayerStatsData", "player_stats", "playerId"⟩, _, rfl, rfl, ?_, ?_, ?_, ?_⟩
  · simp [Pairs.Distinct, Pairs.names]
  · intro pair hpair
    simp only [List.mem_cons, List.not_mem_nil, or_false] at hpair
    rcases hpair with rfl | rfl
    · exact ⟨show ¬ HasDollar "playerId" by decide, Json.Plain.faithful trivial⟩
    · exact ⟨show ¬ HasDollar "stats" by decide, h⟩
  · rintro key ⟨rfl⟩
    rfl
  · rintro options key shown ⟨rfl⟩ hshown
    have hplayer := hshown.fits_key (Record.fits_of mk shown)
    have hstats := hshown.fits_field "stats" hplayer rfl
      (Shape.mapOf_map Shape.int64_whole record.stats) rfl (by decide) (by decide) (some .empty)
    exact hstats.read_eq hshown.distinct

/-- The profile of a player is lossless, with or without a second name. -/
theorem Profile.lossless (profile : Profile) :
    ∃ metadata fields, Lossless kind metadata fields profile := by
  refine ⟨⟨"Profile", "profiles", "key"⟩, _, rfl, rfl, ?_, ?_, ?_, ?_⟩
  · simp [Pairs.Distinct, Pairs.names]
  · exact Json.PlainPairs.faithful ⟨by decide, Json.plain_optionalText _, by decide, trivial,
      by decide, trivial, by decide, Json.plain_optionalText _, trivial⟩
  · intro key hkey
    exact congrArg (fun key => some (optionalText key)) hkey
  · intro options key shown hkey hshown
    have hid := hshown.fits_optionalKey (Record.fits_of mk shown)
    rw [← (show profile.key = some key from hkey)] at hid
    have hname := hshown.fits_text "name" hid rfl (by decide) (by decide)
    have hjoined := hshown.fits_field "joined" hname rfl
      (Shape.instant_instantText profile.joined) rfl (by decide) (by decide) none
    have hnickname := hshown.fits_optionalText "nickname" hjoined rfl (by decide) (by decide)
    exact hnickname.read_eq hshown.distinct

/-- The later form of a profile is lossless. -/
theorem ProfileV2.lossless (profile : ProfileV2) :
    ∃ metadata fields, Lossless kind metadata fields profile := by
  refine ⟨⟨"ProfileV2", "profiles", "key"⟩, _, rfl, rfl, ?_, ?_, ?_, ?_⟩
  · simp [Pairs.Distinct, Pairs.names]
  · exact Json.PlainPairs.faithful ⟨by decide, trivial, by decide, trivial, by decide,
      Json.plain_uint8 _, by decide, Json.plain_int32 _, by decide, trivial, by decide,
      Json.plain_textList _, trivial⟩
  · rintro key ⟨rfl⟩
    rfl
  · rintro options key shown ⟨rfl⟩ hshown
    have hid := hshown.fits_key (Record.fits_of mk shown)
    have hname := hshown.fits_text "name" hid rfl (by decide) (by decide)
    have hlevel := hshown.fits_field "level" hname rfl (Shape.uint8_whole profile.level) rfl
      (by decide) (by decide) none
    have hrank := hshown.fits_field "rank" hlevel rfl (Shape.int32_whole profile.rank) rfl
      (by decide) (by decide) none
    have hactive := hshown.fits_field "active" hrank rfl
      (show Shape.flag (.bool profile.active) = .ok _ from rfl) rfl (by decide) (by decide) none
    have htags := hshown.fits_field "tags" hactive rfl (Shape.listOf_textList profile.tags) rfl
      (by decide) (by decide) (some [])
    exact htags.read_eq hshown.distinct

/-- A planet is lossless, with or without a second name. -/
theorem Planet.lossless (planet : Planet) :
    ∃ metadata fields, Lossless kind metadata fields planet := by
  refine ⟨⟨"Planet", "planets", "planet_id"⟩, _, rfl, rfl, ?_, ?_, ?_, ?_⟩
  · simp [Pairs.Distinct, Pairs.names]
  · exact Json.PlainPairs.faithful ⟨by decide, Json.plain_optionalText _, by decide, trivial,
      by decide, trivial, by decide, Json.plain_optionalText _, by decide, Json.plain_textList _,
      trivial⟩
  · intro key hkey
    exact congrArg (fun key => some (optionalText key)) hkey
  · intro options key shown hkey hshown
    have hid := hshown.fits_optionalKey (Record.fits_of mk shown)
    rw [← (show planet.planetId = some key from hkey)] at hid
    have hname := hshown.fits_text "display_name" hid rfl (by decide) (by decide)
    have hcreated := hshown.fits_field "created_at" hname rfl
      (Shape.instant_instantText planet.createdAt) rfl (by decide) (by decide) none
    have hnickname := hshown.fits_optionalText "nickname" hcreated rfl (by decide) (by decide)
    have hcitizens := hshown.fits_field "citizens" hnickname rfl
      (Shape.listOf_textList planet.citizens) rfl (by decide) (by decide) none
    exact hcitizens.read_eq hshown.distinct

/-- A table of scores is lossless if no name begins with a dollar sign. -/
theorem Scoreboard.lossless (board : Scoreboard)
    (h : ∀ name ∈ Pairs.names board.scores.pairs, ¬ HasDollar name) :
    ∃ metadata fields, Lossless kind metadata fields board := by
  refine ⟨⟨"Scoreboard", "scoreboards", "board_id"⟩, _, rfl, rfl, ?_, ?_, ?_, ?_⟩
  · simp [Pairs.Distinct, Pairs.names]
  · exact Json.PlainPairs.faithful ⟨by decide, trivial, by decide, Json.plain_scoresJson h,
      by decide, Json.plain_optionalText _, trivial⟩
  · rintro key ⟨rfl⟩
    rfl
  · rintro options key shown ⟨rfl⟩ hshown
    have hid := hshown.fits_key (Record.fits_of mk shown)
    have hscores := hshown.fits_field "scores" hid rfl (Shape.mapOf_scoresJson board.scores) rfl
      (by decide) (by decide) none
    have howner := hshown.fits_optionalText "owner" hscores rfl (by decide) (by decide)
    exact howner.read_eq hshown.distinct

end KeyedStore
