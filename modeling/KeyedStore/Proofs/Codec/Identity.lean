import KeyedStore.Catalogue
import KeyedStore.Proofs.Codec.Decoding
import KeyedStore.Proofs.Codec.Encoding
import KeyedStore.Proofs.Pairs

/-!
# The identity of decoded entities

A document that others have written may hold anything under the identity and under the key field of
its type, in any place. None of it is read: the key field is read from the key that the document is
looked up by, and only the other fields decide what else is decoded.

- `Document.otherFields`: the fields beside the identity and the key field;
- `Record.Keyed`: a record that has the key field first and takes every text for it;
- `Record.Keyed.read_pairsRead`: such a record reads the key and the other fields;
- `structured_decodesByKey`: the kinds whose entities are known by their keys;
- `MisdeclaredKey.key_of_decode`: the kind that declares another field than the one it reads.

## References

- SPEC_FULL.md, section 4.2, step 2 of loading: the identity takes the place of the key field
-/

namespace KeyedStore

/-- The fields of a document beside the identity and the key field, in order. -/
def Document.otherFields (document : Document) (keyField : String) : Document :=
  document.filter fun field => field.1 ≠ identityField ∧ field.1 ≠ keyField

/-! ## Where the key is read -/

namespace Codec

variable {metadata : Metadata} {document : Document}

/-- The key is read from some place among the other fields of a document. -/
theorem exists_relocate_eq (h : Pairs.Distinct document) (key : String) :
    ∃ before after, relocate metadata document key =
        before ++ (metadata.keyField, .string key) :: after ∧
      before ++ after = document.otherFields metadata.keyField := by
  obtain ⟨before, after, hinsert, hfilter⟩ :=
    Pairs.exists_insert_eq metadata.keyField (Bson.string key) (h.erase identityField)
  refine ⟨before, after, hinsert, ?_⟩
  rw [hfilter, Pairs.erase_eq_filter identityField h, List.filter_filter, Document.otherFields]
  refine List.filter_congr fun field _ => ?_
  simp only [ne_eq, decide_not, Bool.decide_and]
  exact Bool.and_comm _ _

/-- What is read of a field. -/
def fieldRead (field : String × Bson) : String × Json :=
  (field.1, field.2.toJson.reread)

/-- What an entity is read from is the document with its identity moved, field by field. -/
theorem pairsRead_eq_map (metadata : Metadata) (document : Document) (key : String) :
    pairsRead metadata document key = (relocate metadata document key).map fieldRead := by
  rw [pairsRead]
  induction relocate metadata document key with
  | nil => rfl
  | cons field fields ih =>
    obtain ⟨name, value⟩ := field
    rw [Bson.pairsToJson, Json.rereadPairs, ih, List.map_cons, fieldRead]

end Codec

/-! ## Records that begin with the key -/

namespace Record

open Codec

variable {α β : Type} {name : String}

/-- A record has the field of a key, which takes every text, and it looks its fields up by their
names. An entity that is built from a text under that name has what the text gives it. -/
structure Keyed (record : Record α) (name : String) (has : String → α → Prop) : Prop where
  /-- Every text is a key. -/
  passes : ∃ check, Pairs.get? name record.checks = some check ∧
    ∀ text, check (.string text) = none
  /-- Only what is found under each name matters. -/
  looksUp : ∀ {first second : List (String × Json)},
    (∀ other, Pairs.get? other first = Pairs.get? other second) →
      record.build first = record.build second
  /-- The entity has its key from the text. -/
  builds : ∀ {pairs : List (String × Json)} {text : String} {value : α},
    Pairs.get? name pairs = some (.string text) → record.build pairs = .ok value → has text value

/-- A field is built alike from pairs that have the same value under its name. -/
theorem field_build_congr {record : Record (α → β)} {first second : List (String × Json)}
    (hbuild : record.build first = record.build second) {field : String}
    (hfield : Pairs.get? field first = Pairs.get? field second) (shape : Shape α)
    (absent : Option α) :
    (record.field field shape absent).build first =
      (record.field field shape absent).build second := by
  simp only [Record.field, hbuild, hfield]

/-- A record may begin with a field that takes every text for its key. -/
theorem keyed_first (make : α → β) (name : String) {shape : Shape α} {part : String → α}
    (hshape : ∀ text, shape (.string text) = .ok (part text)) (absent : Option α) :
    ((Record.of make).field name shape absent).Keyed name fun text partly =>
      partly = make (part text) where
  passes := ⟨_, if_pos rfl, fun text => Shape.fault?_eq_none (hshape text)⟩
  looksUp {first second} h :=
    field_build_congr (show (Record.of make).build first = (Record.of make).build second from rfl)
      (h name) shape absent
  builds {pairs text value} hget hbuild := by
    obtain ⟨_, found, hmake, rfl, hread⟩ := build_field_eq_ok hbuild
    obtain rfl := Except.ok.inj hmake
    rcases hread with ⟨json, hjson, hfound⟩ | ⟨hnone, -⟩
    · obtain rfl := Option.some.inj (hget.symm.trans hjson)
      rw [← Except.ok.inj ((hshape text).symm.trans hfound)]
    · exact absurd (hget.symm.trans hnone) (by simp)

namespace Keyed

/-- The key stays what it is when another field is added. -/
theorem field {record : Record (α → β)} {has : String → (α → β) → Prop}
    (h : record.Keyed name has) {other : String} {shape : Shape α} {absent : Option α} :
    (record.field other shape absent).Keyed name fun text value =>
      ∃ partly part, has text partly ∧ value = partly part where
  passes := by
    obtain ⟨check, hcheck, htexts⟩ := h.passes
    refine ⟨check, ?_, htexts⟩
    -- The first check of a name is the one that counts.
    rw [Record.field, Pairs.get?_append, hcheck, Option.some_or]
  looksUp hget := field_build_congr (h.looksUp hget) (hget other) shape absent
  builds hget hbuild := by
    obtain ⟨partly, part, hpartly, rfl, -⟩ := build_field_eq_ok hbuild
    exact ⟨partly, part, h.builds hget hpartly, rfl⟩

/-- What is known of a keyed record may be told in other words. -/
theorem mono {record : Record α} {has gives : String → α → Prop} (h : record.Keyed name has)
    (himp : ∀ text value, has text value → gives text value) : record.Keyed name gives where
  passes := h.passes
  looksUp := h.looksUp
  builds hget hbuild := himp _ _ (h.builds hget hbuild)

variable {record : Record α} {has : String → α → Prop}

/-- The first fault of joined pairs is that of the first ones, and else that of the others. -/
theorem firstFault_append (record : Record α) (first second : List (String × Json)) :
    record.firstFault (first ++ second) =
      (record.firstFault first).or (record.firstFault second) := by
  induction first with
  | nil => rfl
  | cons pair first ih =>
    obtain ⟨found, value⟩ := pair
    rw [List.cons_append, firstFault, firstFault]
    cases (Pairs.get? found record.checks).bind (· value) with
    | none => exact ih
    | some fault => rfl

/-- It does not matter where a text stands that is the key. -/
theorem read_append (h : record.Keyed name has) {before after : List (String × Json)}
    (hname : name ∉ Pairs.names before) (text : String) :
    record.read (.object (before ++ (name, .string text) :: after)) =
      record.read (.object ((name, .string text) :: (before ++ after))) := by
  obtain ⟨check, hcheck, htexts⟩ := h.passes
  have hfault : ∀ pairs, record.firstFault ((name, .string text) :: pairs) =
      record.firstFault pairs := by
    intro pairs
    rw [firstFault, hcheck, Option.bind_some, htexts]
  have hbuild : record.build (before ++ (name, .string text) :: after) =
      record.build ((name, .string text) :: (before ++ after)) := by
    refine h.looksUp fun other => ?_
    -- Nothing before the key has its name, so a look-up finds it in both places.
    rw [Pairs.get?_append, Pairs.get?, Pairs.get?, Pairs.get?_append]
    split_ifs with heq
    · rw [← heq, Pairs.get?_eq_none_of_not_mem hname, Option.none_or]
    · rfl
  rw [read, read, hbuild, firstFault_append, hfault, hfault, firstFault_append]

/-- From a document such a record reads the key and the other fields. -/
theorem read_pairsRead {metadata : Metadata} (h : record.Keyed metadata.keyField has)
    {document : Document} (hdistinct : Pairs.Distinct document) (key : String) :
    record.read (.object (pairsRead metadata document key)) =
      record.read (.object ((metadata.keyField, .string key) ::
        (document.otherFields metadata.keyField).map fieldRead)) := by
  obtain ⟨before, after, hrelocate, hothers⟩ := exists_relocate_eq hdistinct key
  rw [pairsRead_eq_map, hrelocate, List.map_append, List.map_cons, ← hothers, List.map_append]
  refine h.read_append (fun hmem => ?_) key
  -- None of the other fields has the name of the key field.
  obtain ⟨_, hshown, hfst⟩ := List.mem_map.mp hmem
  obtain ⟨field, hfield, rfl⟩ := List.mem_map.mp hshown
  have hother : field ∈ document.otherFields metadata.keyField := by
    rw [← hothers]
    exact List.mem_append_left after hfield
  have htest := (List.mem_filter.mp hother).2
  simp only [decide_eq_true_eq] at htest
  exact htest.2 hfst

end Keyed

end Record

/-! ## Kinds that are known by their keys -/

namespace StructuredKind

variable {α : Type} {kind : StructuredKind α}

/-- Entities are known by the keys of their documents: a decoded entity has the key that its
document is looked up by, whatever the document holds, and documents with the same other fields in
the same order are decoded to the same entities, whatever the options. -/
structure DecodesByKey (kind : StructuredKind α) : Prop where
  /-- A decoded entity has the key of its document. -/
  key_eq : ∀ {options : CodecOptions} {document : Document} {key : String} {entity : α},
    Codec.decode kind options document key = .ok entity → kind.key entity = some key
  /-- The other fields decide what is decoded. -/
  decode_iff : ∀ {first second : Document}, Pairs.Distinct first → Pairs.Distinct second →
    first.otherFields kind.declaration.keyField = second.otherFields kind.declaration.keyField →
    ∀ (options others : CodecOptions) (key : String) (entity : α),
      Codec.decode kind options first key = .ok entity ↔
        Codec.decode kind others second key = .ok entity

/-- A kind that reads its key from under its key field decodes by keys. -/
theorem decodesByKey {metadata : Metadata} (hresolve : kind.declaration.resolve = .ok metadata)
    {record : Record α} (hread : kind.read = record.read)
    (hkeyed : record.Keyed metadata.keyField fun text entity => kind.key entity = some text) :
    kind.DecodesByKey where
  key_eq hdecode := by
    rw [Codec.decode_eq_ok_iff _ hresolve, hread] at hdecode
    exact hkeyed.builds (Codec.get?_pairsRead_key metadata _ _) (Record.build_eq_ok hdecode)
  decode_iff hfirst hsecond hothers options others key entity := by
    have hkeyField : kind.declaration.keyField = metadata.keyField := by
      rw [Declaration.eq_of_resolve hresolve]
    rw [Codec.decode_eq_ok_iff _ hresolve, Codec.decode_eq_ok_iff _ hresolve, hread,
      hkeyed.read_pairsRead hfirst, hkeyed.read_pairsRead hsecond, ← hkeyField, hothers]

end StructuredKind

/-! ## The kinds of the catalogue -/

section Kinds

open Record StructuredKind

theorem PlayerStats.decodesByKey : kind.DecodesByKey :=
  StructuredKind.decodesByKey rfl rfl ((keyed_first mk "playerId" (fun _ => rfl) none).field.mono
    (by rintro text _ ⟨_, _, rfl, rfl⟩; rfl))

theorem PlayerLevel.decodesByKey : kind.DecodesByKey :=
  StructuredKind.decodesByKey rfl rfl ((keyed_first mk "playerId" (fun _ => rfl) none).field.mono
    (by rintro text _ ⟨_, _, rfl, rfl⟩; rfl))

theorem Profile.decodesByKey : kind.DecodesByKey :=
  StructuredKind.decodesByKey rfl rfl
    ((keyed_first mk "key" (fun _ => rfl) (some none)).field.field.field.mono
      (by rintro text _ ⟨_, _, ⟨_, _, ⟨_, _, rfl, rfl⟩, rfl⟩, rfl⟩; rfl))

theorem ProfileV2.decodesByKey : kind.DecodesByKey :=
  StructuredKind.decodesByKey rfl rfl
    ((keyed_first mk "key" (fun _ => rfl) none).field.field.field.field.field.mono
      (by rintro text _ ⟨_, _, ⟨_, _, ⟨_, _, ⟨_, _, ⟨_, _, rfl, rfl⟩, rfl⟩, rfl⟩, rfl⟩, rfl⟩; rfl))

theorem Planet.decodesByKey : kind.DecodesByKey :=
  StructuredKind.decodesByKey rfl rfl
    ((keyed_first mk "planet_id" (fun _ => rfl) (some none)).field.field.field.field.mono
      (by rintro text _ ⟨_, _, ⟨_, _, ⟨_, _, ⟨_, _, rfl, rfl⟩, rfl⟩, rfl⟩, rfl⟩; rfl))

/-- Shadowing entities are known by their keys, although they have a field with the name of the
identity. -/
theorem Shadowing.decodesByKey : kind.DecodesByKey :=
  StructuredKind.decodesByKey rfl rfl
    ((keyed_first mk "id" (fun _ => rfl) none).field.field.field.field.mono
      (by rintro text _ ⟨_, _, ⟨_, _, ⟨_, _, ⟨_, _, rfl, rfl⟩, rfl⟩, rfl⟩, rfl⟩; rfl))

theorem Scoreboard.decodesByKey : kind.DecodesByKey :=
  StructuredKind.decodesByKey rfl rfl
    ((keyed_first mk "board_id" (fun _ => rfl) none).field.field.mono
      (by rintro text _ ⟨_, _, ⟨_, _, rfl, rfl⟩, rfl⟩; rfl))

end Kinds

/-- A misdeclared record does not have the key that its document is looked up by: it has whatever
text the document holds under the name that is not declared. -/
theorem MisdeclaredKey.key_of_decode {options : CodecOptions} {document : Document} {key : String}
    {record : MisdeclaredKey} (h : Codec.decode kind options document key = .ok record) :
    ∃ value, Pairs.get? "playerId" document = some value ∧
      value.toJson.reread = .string record.playerId := by
  have hresolve : kind.declaration.resolve = .ok ⟨"MisdeclaredKey", "misdeclared", "player_id"⟩ :=
    rfl
  rw [Codec.decode_eq_ok_iff options hresolve] at h
  -- The fields of the record are taken off, the last one first.
  obtain ⟨_, _, hplayer, rfl, -⟩ := Record.build_field_eq_ok (Record.build_eq_ok h)
  obtain ⟨_, playerId, hmk, rfl, htext⟩ := Record.build_field_eq_ok hplayer
  obtain rfl := Except.ok.inj hmk
  obtain ⟨json, hjson, hplayerId⟩ := htext.resolve_right (by simp)
  rw [Codec.get?_pairsRead_of_ne (by decide) (by decide)] at hjson
  obtain ⟨value, hget, rfl⟩ := Option.map_eq_some_iff.mp hjson
  refine ⟨value, hget, ?_⟩
  cases hread : value.toJson.reread with
  | string text =>
    rw [hread] at hplayerId
    exact congrArg Json.string (Except.ok.inj hplayerId)
  | _ => exact absurd hplayerId (by simp [hread, Shape.text])

/-- A shadowing record is never decoded: the field that is named like the identity goes with the
identity. -/
theorem Shadowing.decode_ne_ok {document : Document} (hdistinct : Pairs.Distinct document)
    (options : CodecOptions) (key : String) (record : Shadowing) :
    Codec.decode kind options document key ≠ .ok record := by
  intro h
  have hresolve : kind.declaration.resolve = .ok ⟨"Shadowing", "shadowing", "id"⟩ := rfl
  rw [Codec.decode_eq_ok_iff options hresolve] at h
  -- The three numbers are taken off, and then the field behind the key.
  obtain ⟨_, _, hb, rfl, -⟩ := Record.build_field_eq_ok (Record.build_eq_ok h)
  obtain ⟨_, _, ha, rfl, -⟩ := Record.build_field_eq_ok hb
  obtain ⟨_, _, hshadow, rfl, -⟩ := Record.build_field_eq_ok ha
  obtain ⟨_, _, -, rfl, htext⟩ := Record.build_field_eq_ok hshadow
  obtain ⟨json, hjson, -⟩ := htext.resolve_right (by simp)
  have hne : ("_id" : String) ≠ "id" := by decide
  rw [Codec.pairsRead, Json.get?_rereadPairs, Bson.get?_pairsToJson, Codec.relocate,
    Pairs.get?_insert_of_ne hne] at hjson
  have hnone : Pairs.get? "_id" (Pairs.erase identityField document) = none :=
    Pairs.get?_erase_self hdistinct identityField
  exact absurd hjson (by simp [hnone])

/-- Entities of every registered kind but the misdeclared one are known by the keys of their
documents. -/
theorem structured_decodesByKey :
    ∀ found ∈ Catalogue.structured, found.kind.declaration.typeName ≠ "MisdeclaredKey" →
      found.kind.DecodesByKey := by
  intro found hfound hname
  simp only [Catalogue.structured, List.mem_cons, List.not_mem_nil, or_false] at hfound
  rcases hfound with rfl | rfl | rfl | rfl | rfl | rfl | rfl | rfl
  · exact PlayerStats.decodesByKey
  · exact PlayerLevel.decodesByKey
  · exact Profile.decodesByKey
  · exact ProfileV2.decodesByKey
  · exact Planet.decodesByKey
  · exact Shadowing.decodesByKey
  · exact absurd rfl hname
  · exact Scoreboard.decodesByKey

/-- A table of scores with a number for its key and a foreign identity behind it is decoded like one
that holds neither. -/
theorem structured_decodesByKey_scoreboard :
    let scores : String × Bson := ("scores", .document [("ann", .int64 5), ("bob", .null)])
    let owner : String × Bson := ("owner", .string "carl")
    let stale : Document := [("board_id", .int32 7), scores, ("_id", .boolean true), owner]
    let board : Scoreboard := ⟨"north",
      (NameMap.empty.insert "ann" (some 5)).insert "bob" none, some "carl"⟩
    Codec.decode Scoreboard.kind {} stale "north" = .ok board ∧
      Codec.decode Scoreboard.kind ⟨false, 1⟩ [scores, owner] "north" = .ok board := by
  intro scores owner stale board
  have hboard : Scoreboard.kind.DecodesByKey :=
    structured_decodesByKey ⟨_, Scoreboard.kind⟩ (by simp [Catalogue.structured]) (by decide)
  have hresolve : Scoreboard.kind.declaration.resolve =
      .ok ⟨"Scoreboard", "scoreboards", "board_id"⟩ := rfl
  have hdecode : Codec.decode Scoreboard.kind {} stale "north" = .ok board :=
    (Codec.decode_eq_ok_iff {} hresolve).mpr rfl
  have hothers : stale.otherFields Scoreboard.kind.declaration.keyField =
      Document.otherFields [scores, owner] Scoreboard.kind.declaration.keyField := rfl
  have hstale : Pairs.Distinct stale := by decide
  have hfields : Pairs.Distinct [scores, owner] := by decide
  exact ⟨hdecode, (hboard.decode_iff hstale hfields hothers {} ⟨false, 1⟩ "north" board).mp hdecode⟩

end KeyedStore
