import KeyedStore.Proofs.Bson.ExtendedForms
import KeyedStore.Proofs.Bson.Paths
import KeyedStore.Proofs.Codec.Shown
import KeyedStore.Specimen.Loose

/-!
# What the document of an entity holds

The document of an entity identifies it by its key, and nothing in the payload can stand in the way
of that: neither a field with the name of the identity nor the key field itself. Every other field
is there once, under its own name and with its own value, in whatever order the fields come.

- `Holds`: a document holds a key and the fields beside it;
- `holds_assemble`: so does the document that is put together from the fields that are left;
- `encode_holds`: so does every document of an entity.

## References

- SPEC_FULL.md, section 3, Document; section 8, Key exclusion; section 10.4, the field `_id`
-/

namespace KeyedStore

namespace Codec

/-- A document holds a key and, beside it, the fields of an entity that are kept. -/
structure Holds (keyField : String) (options : CodecOptions) (fields : List (String × Json))
    (key : String) (document : Document) : Prop where
  /-- The key comes first, under the name of the identity, and no other pair has that name. -/
  identity : ∃ others, document = (identityField, .string key) :: others ∧
    identityField ∉ Pairs.names others
  /-- No name occurs twice. -/
  distinct : Pairs.Distinct document
  /-- The key field is not there, unless it is the identity. -/
  keyField_absent : keyField ≠ identityField → keyField ∉ Pairs.names document
  /-- Any other name is there exactly if it is the name of a field that is kept. -/
  mem_names_iff : ∀ name, name ≠ identityField → name ≠ keyField →
    (name ∈ Pairs.names document ↔ ∃ value, Pairs.get? name fields = some value ∧
      ¬ (options.omitNullFields = true ∧ value.isNull = true))
  /-- Its value is the BSON value of the field. -/
  converted : ∀ name, name ≠ identityField → name ≠ keyField → ∀ value bson,
    Pairs.get? name fields = some value → Pairs.get? name document = some bson →
      Bson.ofJson value = .ok bson
  /-- A null inside a field is kept in its place. -/
  nulls : ∀ name, name ≠ identityField → name ≠ keyField → ∀ value bson,
    Pairs.get? name fields = some value → Pairs.get? name document = some bson →
      ∀ path, value.Clear path → value.at? path = some .null → bson.at? path = some .null

variable {metadata : Metadata} {options : CodecOptions} {fields : List (String × Json)}

/-- Beside the key and the identity, a name has a value in the converted fields that are left
exactly if the field of that name is kept, and the value is that of the field. -/
theorem get?_converted (hdistinct : Pairs.Distinct fields) {payload : Document}
    (hof : Bson.ofPairs (remaining metadata options fields) = .ok payload) {name : String}
    (hid : name ≠ identityField) (hkey : name ≠ metadata.keyField) (bson : Bson) :
    Pairs.get? name payload = some bson ↔
      ∃ value, Pairs.get? name fields = some value ∧ options.keeps value = true ∧
        Bson.ofJson value = .ok bson := by
  have hremaining := get?_remaining metadata options hdistinct name
  rw [if_neg (by simp [hid, hkey])] at hremaining
  constructor
  · intro hget
    cases hfield : Pairs.get? name (remaining metadata options fields) with
    | none =>
      -- The names of the payload are those of the fields that are left.
      rw [Pairs.get?_eq_none_iff, ← Bson.names_ofPairs hof, ← Pairs.get?_eq_none_iff,
        hget] at hfield
      exact absurd hfield (by simp)
    | some value =>
      obtain ⟨converted, hconverted, hvalue⟩ := Bson.get?_ofPairs hof hfield
      obtain rfl : converted = bson := Option.some.inj (hconverted.symm.trans hget)
      rw [hremaining, Option.filter_eq_some_iff] at hfield
      exact ⟨value, hfield.1, hfield.2, hvalue⟩
  · rintro ⟨value, hget, hkeeps, hvalue⟩
    rw [hget, Option.filter_some_pos hkeeps] at hremaining
    obtain ⟨converted, hconverted, hof⟩ := Bson.get?_ofPairs hof hremaining
    rw [hconverted, Except.ok.inj (hof.symm.trans hvalue)]

/-- A document that is put together from a key and the fields that are left holds the fields. -/
theorem holds_assemble (hdistinct : Pairs.Distinct fields) {payload : Document}
    (hof : Bson.ofPairs (remaining metadata options fields) = .ok payload) (key : String) :
    Holds metadata.keyField options fields key (assemble key payload) := by
  have hnames := Bson.names_ofPairs hof
  have hpayload : Pairs.Distinct payload := by
    unfold Pairs.Distinct
    rw [hnames]
    exact distinct_remaining metadata options hdistinct
  have habsent : ∀ name, name = metadata.keyField ∨ name = identityField →
      name ∉ Pairs.names payload := by
    rw [hnames]
    exact fun _ => not_mem_names_remaining metadata options hdistinct
  have hidentity := habsent identityField (.inr rfl)
  -- The key is put in front, and the payload follows as it is.
  rw [assemble_eq_cons hpayload hidentity]
  have hget : ∀ name, name ≠ identityField →
      Pairs.get? name ((identityField, Bson.string key) :: payload) = Pairs.get? name payload :=
    fun name hid => by rw [Pairs.get?, if_neg (Ne.symm hid)]
  have hconverted : ∀ name, name ≠ identityField → name ≠ metadata.keyField → ∀ value bson,
      Pairs.get? name fields = some value →
      Pairs.get? name ((identityField, Bson.string key) :: payload) = some bson →
      Bson.ofJson value = .ok bson := by
    intro name hid hkey value bson hvalue hbson
    rw [hget name hid, get?_converted hdistinct hof hid hkey] at hbson
    obtain ⟨other, hother, -, hofJson⟩ := hbson
    rw [Option.some.inj (hvalue.symm.trans hother), hofJson]
  refine ⟨⟨payload, rfl, hidentity⟩, Pairs.distinct_cons.mpr ⟨hidentity, hpayload⟩, ?_, ?_,
    hconverted, ?_⟩
  · intro hne
    rw [Pairs.names, List.map_cons, List.mem_cons, not_or]
    exact ⟨hne, habsent _ (.inl rfl)⟩
  · intro name hid hkey
    rw [← Pairs.contains_iff, Pairs.contains, hget name hid, Option.isSome_iff_exists]
    simp only [get?_converted hdistinct hof hid hkey, ← CodecOptions.keeps_iff]
    constructor
    · rintro ⟨bson, value, hvalue, hkeeps, -⟩
      exact ⟨value, hvalue, hkeeps⟩
    · rintro ⟨value, hvalue, hkeeps⟩
      -- A field that is kept has been converted with the others.
      have hremaining := get?_remaining metadata options hdistinct name
      rw [if_neg (by simp [hid, hkey]), hvalue, Option.filter_some_pos hkeeps] at hremaining
      obtain ⟨bson, -, hofJson⟩ := Bson.get?_ofPairs hof hremaining
      exact ⟨bson, value, hvalue, hkeeps, hofJson⟩
  · intro name hid hkey value bson hvalue hbson path hclear hat
    obtain ⟨inner, hinner, hofJson⟩ :=
      Bson.at?_ofJson (hconverted name hid hkey value bson hvalue hbson) hclear hat
    rw [hinner, Except.ok.inj (hofJson.symm.trans (show Bson.ofJson .null = .ok .null from rfl))]

variable {α : Type}

/-- The document of an entity is for the collection of its type and for its own key, which is not
empty, and it holds the key and the fields of the entity: nothing is lost, nothing is there twice,
and nothing takes the place of the identity. -/
theorem encode_holds {kind : StructuredKind α} {options : CodecOptions} {entity : α}
    {fields : List (String × Json)} {encoded : Encoded}
    (hpayload : kind.payload entity = .ok (.object fields)) (hdistinct : Pairs.Distinct fields)
    (h : (encode kind options entity).value = .ok encoded) :
    encoded.collection = kind.declaration.collection ∧
      kind.key entity = some encoded.key ∧ encoded.key ≠ "" ∧
      Holds kind.declaration.keyField options fields encoded.key encoded.document := by
  obtain ⟨⟨metadata, key, rest⟩, hprepare, hfinish⟩ := encode_eq_ok h
  obtain ⟨hresolve, hrequire, others, hothers, hwithout⟩ := prepare_eq_ok hprepare
  obtain ⟨payload, hof, rfl⟩ := finish_eq_ok hfinish
  obtain rfl : fields = others := Json.object.inj (Except.ok.inj (hpayload.symm.trans hothers))
  obtain rfl := Declaration.eq_of_resolve hresolve
  -- The key has passed its check as it is.
  rcases requireKey_cases _ (kind.key entity) with ⟨error, herror, -⟩ | ⟨text, htext, hne, hok⟩
  · exact absurd (herror.symm.trans hrequire) (by simp)
  obtain rfl : text = key := Except.ok.inj (hok.symm.trans hrequire)
  refine ⟨rfl, htext, hne, ?_⟩
  -- The fields that are left are those that have been converted.
  rw [withoutKey] at hwithout
  split_ifs at hwithout
  obtain rfl : Pairs.swapErase kind.declaration.keyField (keptFields options fields) = rest :=
    Except.ok.inj hwithout
  exact holds_assemble hdistinct (Document.ofPairs_eq_ok hof) text

/-- A field with the name of the identity gives way to the key, and of two nulls only the one at
the top is left out. -/
theorem encode_holds_stale :
    Holds "key" {} [("key", .string "k"), ("_id", .string "stale"),
        ("a", .object [("b", .null)]), ("c", .null)] "k"
      [("_id", .string "k"), ("a", .document [("b", .null)])] := by
  have hencode : (encode (Loose.kind ⟨"specimen::Loose", "loose", "key"⟩) {}
      ⟨some "k", .object [("key", .string "k"), ("_id", .string "stale"),
        ("a", .object [("b", .null)]), ("c", .null)]⟩).value =
      .ok ⟨"loose", "k", [("_id", .string "k"), ("a", .document [("b", .null)])]⟩ := rfl
  exact (encode_holds rfl (by decide) hencode).2.2.2

end Codec

end KeyedStore
