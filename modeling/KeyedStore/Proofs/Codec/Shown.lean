import KeyedStore.Proofs.Bson.Plain
import KeyedStore.Proofs.Codec.Encoding
import KeyedStore.Proofs.Json.Reading
import KeyedStore.Proofs.Pairs

/-!
# What a stored entity is read from

An entity loses its key field, its null fields and a field with the name of the identity on the way
to its document, and its fields change places. On the way back the key is put under its own name.
The text that the entity is read from holds the fields that were kept, each once, and the key.

- `get?_remaining`: the fields that are left beside the key, without regard to their order;
- `prepare_eq`, `encode_eq`: the document of an entity whose remaining fields have one;
- `exists_encode_eq`: an entity with faithful fields becomes a document, and the text that is read
  is that of an object whose fields are known (`Shown`);
- `decode_of_shown`: whatever the kind reads from such an object is the decoded entity.

## References

- SPEC_FULL.md, section 4.2; section 10.4, the omission of null fields
-/

namespace KeyedStore

namespace CodecOptions

/-- Whether a field with a value is kept in documents. -/
def keeps (options : CodecOptions) (value : Json) : Bool :=
  !(options.omitNullFields && value.isNull)

/-- The options keep every value but null. -/
theorem keeps_of_not_null (options : CodecOptions) {value : Json} (h : value.isNull = false) :
    options.keeps value = true := by
  simp [keeps, h]

/-- The options drop a value exactly if it is null and null fields are left out. -/
theorem keeps_iff (options : CodecOptions) (value : Json) :
    options.keeps value = true ↔ ¬ (options.omitNullFields = true ∧ value.isNull = true) := by
  rw [keeps]
  cases options.omitNullFields <;> simp

end CodecOptions

namespace Codec

open Json

/-! ## The fields that are left -/

/-- The fields that are kept are those whose values the options keep, in their order. -/
theorem keptFields_eq_filter (options : CodecOptions) (fields : List (String × Json)) :
    keptFields options fields = fields.filter fun field => options.keeps field.2 := by
  unfold keptFields CodecOptions.keeps
  cases options.omitNullFields
  · exact (List.filter_eq_self.mpr fun _ _ => rfl).symm
  · simp only [Bool.true_and, ↓reduceIte]

/-- The fields of an entity that go into its document. -/
def remaining (metadata : Metadata) (options : CodecOptions) (fields : List (String × Json)) :
    List (String × Json) :=
  withoutIdentity metadata (Pairs.swapErase metadata.keyField (keptFields options fields))

variable {metadata : Metadata} {fields : List (String × Json)}

theorem distinct_keptFields (options : CodecOptions) (h : Pairs.Distinct fields) :
    Pairs.Distinct (keptFields options fields) := by
  rw [keptFields_eq_filter]
  exact List.Nodup.sublist (List.filter_sublist.map Prod.fst) h

theorem distinct_remaining (metadata : Metadata) (options : CodecOptions)
    (h : Pairs.Distinct fields) : Pairs.Distinct (remaining metadata options fields) := by
  have hwithoutKey := (distinct_keptFields options h).swapErase metadata.keyField
  unfold remaining withoutIdentity
  split
  · exact hwithoutKey.swapErase identityField
  · exact hwithoutKey

/-- The remaining fields are fields of the payload. -/
theorem mem_of_mem_remaining {options : CodecOptions} {field : String × Json}
    (h : field ∈ remaining metadata options fields) : field ∈ fields := by
  -- Neither the options nor the key bring a field that was not there.
  have hkept : ∀ {field}, field ∈ Pairs.swapErase metadata.keyField (keptFields options fields) →
      field ∈ fields := by
    intro field hmem
    have := Pairs.mem_of_mem_swapErase hmem
    rw [keptFields_eq_filter] at this
    exact (List.mem_filter.mp this).1
  unfold remaining withoutIdentity at h
  split at h
  · exact hkept (Pairs.mem_of_mem_swapErase h)
  · exact hkept h

/-- Beside the key and the identity, a field is left exactly if it is kept, with its value. -/
theorem get?_remaining (metadata : Metadata) (options : CodecOptions) (h : Pairs.Distinct fields)
    (name : String) :
    Pairs.get? name (remaining metadata options fields) =
      if name = metadata.keyField ∨ name = identityField then none
      else (Pairs.get? name fields).filter options.keeps := by
  have hkept := distinct_keptFields options h
  have hwithoutKey := hkept.swapErase metadata.keyField
  have hget : Pairs.get? name (Pairs.swapErase metadata.keyField (keptFields options fields)) =
      if name = metadata.keyField then none
      else (Pairs.get? name fields).filter options.keeps := by
    rw [Pairs.get?_swapErase hkept, keptFields_eq_filter, Pairs.get?_filter h]
  unfold remaining withoutIdentity
  split
  · rw [Pairs.get?_swapErase hwithoutKey, hget]
    by_cases hkey : name = metadata.keyField <;> by_cases hid : name = identityField <;>
      simp [hkey, hid]
  · rename_i hshadow
    rw [hget]
    -- No field is named like the identity, or the identity is the key itself.
    by_cases hkey : name = metadata.keyField
    · simp [hkey]
    by_cases hid : name = identityField
    · subst hid
      simp only [shadowsIdentity, decide_eq_true_eq, not_and, Pairs.contains_iff] at hshadow
      have hnone := Pairs.get?_eq_none_of_not_mem (hshadow (Ne.symm hkey))
      rw [hget, if_neg hkey] at hnone
      simp [hkey, hnone]
    · simp [hkey, hid]

/-! ## The object that is read -/

/-- The pairs that an entity is read from hold its key under the key field and beside it exactly the
fields that were kept. -/
structure Shown (metadata : Metadata) (options : CodecOptions) (fields : List (String × Json))
    (key : String) (shown : List (String × Json)) : Prop where
  distinct : Pairs.Distinct shown
  get?_eq : ∀ name, Pairs.get? name shown =
    if name = metadata.keyField then some (.string key)
    else if name = identityField then none
    else (Pairs.get? name fields).filter options.keeps

/-- Under the key field the key is shown. -/
theorem Shown.get?_key {options : CodecOptions} {key : String} {shown : List (String × Json)}
    (h : Shown metadata options fields key shown) :
    Pairs.get? metadata.keyField shown = some (.string key) := by
  rw [h.get?_eq, if_pos rfl]

/-- Under any other name the field of the payload is shown, if the options keep it. -/
theorem Shown.get?_field {options : CodecOptions} {key : String} {shown : List (String × Json)}
    (h : Shown metadata options fields key shown) {name : String} (hkey : name ≠ metadata.keyField)
    (hid : name ≠ identityField) :
    Pairs.get? name shown = (Pairs.get? name fields).filter options.keeps := by
  rw [h.get?_eq, if_neg hkey, if_neg hid]

/-- Neither the key field nor a field with the name of the identity remains. -/
theorem not_mem_names_remaining (metadata : Metadata) (options : CodecOptions)
    (h : Pairs.Distinct fields) {name : String}
    (hname : name = metadata.keyField ∨ name = identityField) :
    name ∉ Pairs.names (remaining metadata options fields) := by
  rw [← Pairs.get?_eq_none_iff, get?_remaining metadata options h, if_pos hname]

/-- A pair of a new name can be added without a name standing twice. -/
theorem distinct_append_singleton {pairs : List (String × Json)} (h : Pairs.Distinct pairs)
    {name : String} (hname : name ∉ Pairs.names pairs) (value : Json) :
    Pairs.Distinct (pairs ++ [(name, value)]) := by
  rw [← Pairs.insert_eq_append hname value]
  exact h.insert name value

/-- The remaining fields with the key behind them are what a reader is shown. -/
theorem shown_append_key (metadata : Metadata) (options : CodecOptions)
    (h : Pairs.Distinct fields) (key : String) :
    Shown metadata options fields key
      (remaining metadata options fields ++ [(metadata.keyField, .string key)]) where
  distinct := distinct_append_singleton (distinct_remaining metadata options h)
    (not_mem_names_remaining metadata options h (Or.inl rfl)) _
  get?_eq name := by
    rw [Pairs.get?_append, get?_remaining metadata options h, Pairs.get?, Pairs.get?]
    -- The key is found behind the fields, because no field of its name is left.
    by_cases hkey : name = metadata.keyField
    · simp [hkey]
    · by_cases hid : name = identityField
      · subst hid
        simp [hkey, Ne.symm hkey]
      · simp [hkey, Ne.symm hkey, hid]

/-! ## Documents -/

/-- A joined document is shown as its parts, one after the other. -/
theorem pairsToJson_append (first second : Document) :
    Bson.pairsToJson (first ++ second) = Bson.pairsToJson first ++ Bson.pairsToJson second := by
  induction first with
  | nil => rfl
  | cons pair first ih =>
    obtain ⟨name, value⟩ := pair
    rw [List.cons_append, Bson.pairsToJson, ih, Bson.pairsToJson, List.cons_append]

/-- A document without the identity is put behind it as it is. -/
theorem assemble_eq_cons {payload : Document} (h : Pairs.Distinct payload)
    (hid : identityField ∉ Pairs.names payload) (key : String) :
    assemble key payload = (identityField, .string key) :: payload :=
  Pairs.insertAll_eq_append
    (show Pairs.Distinct ([(identityField, Bson.string key)] ++ payload) from
      Pairs.distinct_cons.mpr ⟨hid, h⟩)

/-- The key moves from the identity in front of a document to the key field behind it. -/
theorem relocate_cons {payload : Document} (hkey : metadata.keyField ∉ Pairs.names payload)
    (stored key : String) :
    relocate metadata ((identityField, .string stored) :: payload) key =
      payload ++ [(metadata.keyField, .string key)] := by
  rw [relocate, Pairs.erase, if_pos rfl, Pairs.insert_eq_append hkey]

variable {α : Type}

/-- An entity with a key and a key field that is kept is prepared, and the key field is taken
away. -/
theorem prepare_eq {kind : StructuredKind α} (options : CodecOptions) {entity : α} {key : String}
    (hresolve : kind.declaration.resolve = .ok metadata) (hkey : kind.key entity = some key)
    (hne : key ≠ "") (hpayload : kind.payload entity = .ok (.object fields))
    (hdistinct : Pairs.Distinct fields)
    (hfield : ∃ value, Pairs.get? metadata.keyField fields = some value ∧ options.keeps value) :
    prepare kind options entity =
      .ok ⟨metadata, key, Pairs.swapErase metadata.keyField (keptFields options fields)⟩ := by
  have hcontains : Pairs.contains metadata.keyField (keptFields options fields) = true := by
    obtain ⟨value, hget, hkeeps⟩ := hfield
    rw [Pairs.contains, keptFields_eq_filter, Pairs.get?_filter hdistinct, hget,
      Option.filter_some_pos hkeeps]
    rfl
  simp only [prepare, hresolve, hkey, requireKey, hne, hpayload, requireObject, withoutKey,
    hcontains, bind, Except.bind, ↓reduceIte]
  rfl

/-- An entity whose remaining fields have a document is encoded, with its key in front. -/
theorem encode_eq {kind : StructuredKind α} (options : CodecOptions) {entity : α} {key : String}
    (hresolve : kind.declaration.resolve = .ok metadata) (hkey : kind.key entity = some key)
    (hne : key ≠ "") (hpayload : kind.payload entity = .ok (.object fields))
    (hdistinct : Pairs.Distinct fields)
    (hfield : ∃ value, Pairs.get? metadata.keyField fields = some value ∧ options.keeps value)
    {payload : Document} (hof : Document.ofPairs (remaining metadata options fields) = .ok payload)
    (hnames : Pairs.names payload = Pairs.names (remaining metadata options fields)) :
    (encode kind options entity).value =
      .ok ⟨metadata.collection, key, (identityField, .string key) :: payload⟩ := by
  -- No field has the name of the identity, so it is written in front of them all.
  have hassemble : assemble key payload = (identityField, .string key) :: payload := by
    refine assemble_eq_cons ?_ ?_ key
    · unfold Pairs.Distinct
      rw [hnames]
      exact distinct_remaining metadata options hdistinct
    · rw [hnames]
      exact not_mem_names_remaining metadata options hdistinct (.inr rfl)
  have hfinish : finish
      ⟨metadata, key, Pairs.swapErase metadata.keyField (keptFields options fields)⟩ =
        .ok ⟨metadata.collection, key, (identityField, .string key) :: payload⟩ := by
    have hpairs : Document.ofPairs (withoutIdentity metadata
        (Pairs.swapErase metadata.keyField (keptFields options fields))) = .ok payload := hof
    rw [← hassemble]
    simp only [finish, hpairs]
  unfold encode
  rw [prepare_eq options hresolve hkey hne hpayload hdistinct hfield]
  exact hfinish

/-- The text of a document shows its fields, and its key behind them. -/
theorem intermediate_cons {payload : Document} (hkey : metadata.keyField ∉ Pairs.names payload)
    (stored key : String) :
    intermediate metadata ((identityField, .string stored) :: payload) key =
      (Json.object
        (Bson.pairsToJson payload ++ [(metadata.keyField, .string key)])).render := by
  rw [intermediate, relocate_cons hkey, Document.toJson, pairsToJson_append]
  rfl

/-- A key behind pairs whose texts are read back can be read back with them. -/
theorem legiblePairs_append_key {pairs : List (String × Json)} (h : LegiblePairs pairs)
    (name key : String) : LegiblePairs (pairs ++ [(name, .string key)]) := by
  rw [legiblePairs_iff] at h ⊢
  intro pair hpair
  rcases List.mem_append.mp hpair with hpair | hpair
  · exact h pair hpair
  · rw [List.mem_singleton.mp hpair]
    trivial

/-- An entity with a key and faithful fields becomes a document, and the text that the document is
read from is that of an object with the fields that were kept and the key. -/
theorem exists_encode_eq {kind : StructuredKind α} (options : CodecOptions) {entity : α}
    {key : String} (hresolve : kind.declaration.resolve = .ok metadata)
    (hkey : kind.key entity = some key) (hne : key ≠ "")
    (hpayload : kind.payload entity = .ok (.object fields)) (hdistinct : Pairs.Distinct fields)
    (hfield : ∃ value, Pairs.get? metadata.keyField fields = some value ∧ options.keeps value)
    (hfaithful : FaithfulPairs fields) :
    ∃ document shown,
      (encode kind options entity).value = .ok ⟨metadata.collection, key, document⟩ ∧
        Shown metadata options fields key shown ∧ LegiblePairs shown ∧
        intermediate metadata document key = (Json.object shown).render := by
  -- What remains is as faithful as what was there, so it has a document.
  have hremaining : FaithfulPairs (remaining metadata options fields) :=
    fun _ hpair => hfaithful _ (mem_of_mem_remaining hpair)
  obtain ⟨payload, hof, hto⟩ := Document.exists_ofPairs_eq hremaining
  have hnames : Pairs.names payload = Pairs.names (remaining metadata options fields) := by
    rw [← Bson.names_pairsToJson, hto]
  have habsent : metadata.keyField ∉ Pairs.names payload := by
    rw [hnames]
    exact not_mem_names_remaining metadata options hdistinct (.inl rfl)
  refine ⟨_, remaining metadata options fields ++ [(metadata.keyField, .string key)],
    encode_eq options hresolve hkey hne hpayload hdistinct hfield hof hnames,
    shown_append_key metadata options hdistinct key,
    legiblePairs_append_key hremaining.legible _ key, ?_⟩
  rw [intermediate_cons habsent, hto]

/-- What a kind reads from the object that is shown is the decoded entity. -/
theorem decode_of_shown {kind : StructuredKind α} (options : CodecOptions) {entity : α}
    {key : String} {document : Document} {shown : List (String × Json)}
    (hresolve : kind.declaration.resolve = .ok metadata) (hlegible : LegiblePairs shown)
    (htext : intermediate metadata document key = (Json.object shown).render)
    (hread : kind.read (.object shown) = .ok entity) :
    decode kind options document key = .ok entity := by
  have htextRead : readText kind (intermediate metadata document key) = .ok entity := by
    rw [htext, readText, read?_render (show Legible (.object shown) from hlegible)]
    exact hread
  simp only [decode, hresolve, bind, Except.bind, htextRead]

/-- What a kind does not read from the object that is shown is undecodable. -/
theorem decode_of_unreadable {kind : StructuredKind α} (options : CodecOptions) {key : String}
    {document : Document} {shown : List (String × Json)} {fault : DecodeFault}
    (hresolve : kind.declaration.resolve = .ok metadata) (hlegible : LegiblePairs shown)
    (htext : intermediate metadata document key = (Json.object shown).render)
    (hread : kind.read (.object shown) = .error fault) :
    decode kind options document key =
      .error (.undecodable metadata.typeName metadata.collection key fault
        (Text.excerpt (String.ofList (Json.object shown).render) options.diagnosticLimit)) := by
  have htextRead : readText kind (Json.object shown).render = .error fault := by
    rw [readText, read?_render (show Legible (.object shown) from hlegible)]
    exact hread
  simp only [decode, hresolve, bind, Except.bind, htextRead, htext]

end Codec

end KeyedStore
