import KeyedStore.Proofs.Bson.Convertible
import KeyedStore.Proofs.Bson.ExtendedForms
import KeyedStore.Proofs.Codec.Shown
import KeyedStore.Specimen.Loose
import Mathlib.Tactic.Tauto

/-!
# Which entities are refused

An entity of a type whose declaration keeps the rules is refused for its key or for its fields. The
key comes first: an entity without one, or without the field that declares it, is a defect of the
caller whatever else is wrong with it. What is left of the fields then decides alone, so a value
that BSON cannot hold does no harm in a field that is left out of the document.

- `retained`: the fields that go into the document, in the order of the payload;
- `remaining_perm_retained`: the encoder leaves the same fields, in some order;
- `LacksKey`, `LacksDocument`: the two reasons to refuse an entity;
- `encode_of_lacksKey`, `encode_of_lacksDocument`, `exists_encode`: what each of them leads to;
- `encode_judged_by_key_and_document`: an entity is refused for no other reason.

## References

- SPEC_FULL.md, section 7, ConfigurationError and SerializationError; section 10.4, an absent key
  field
-/

namespace KeyedStore.Codec

open Json

/-! ## The fields that are retained -/

/-- The fields that go into the document beside the key: those that are kept, without the key field
and without one that is named like the identity. -/
def retained (keyField : String) (options : CodecOptions) (fields : List (String × Json)) :
    List (String × Json) :=
  fields.filter fun field =>
    field.1 ≠ keyField ∧ field.1 ≠ identityField ∧ options.keeps field.2 = true

/-- A field is retained if it is neither the key nor named like the identity, and the options keep
it. -/
theorem mem_retained {keyField : String} {options : CodecOptions} {fields : List (String × Json)}
    {field : String × Json} :
    field ∈ retained keyField options fields ↔ field ∈ fields ∧ field.1 ≠ keyField ∧
      field.1 ≠ identityField ∧ options.keeps field.2 = true := by
  simp [retained]

variable {metadata : Metadata} {options : CodecOptions} {fields : List (String × Json)}

/-- The encoder leaves the fields that are retained, in an order of its own. -/
theorem remaining_perm_retained (h : Pairs.Distinct fields) :
    (remaining metadata options fields).Perm (retained metadata.keyField options fields) := by
  have hretained : Pairs.Distinct (retained metadata.keyField options fields) :=
    List.Nodup.sublist (List.filter_sublist.map Prod.fst) h
  refine Pairs.perm_of_get?_eq (distinct_remaining metadata options h) hretained fun name => ?_
  -- Both are told by what is found under each name, which is a field that is kept or nothing.
  ext value
  rw [get?_remaining metadata options h, Pairs.get?_eq_some_iff hretained, mem_retained,
    ← Pairs.get?_eq_some_iff h]
  by_cases hkey : name = metadata.keyField
  · simp [hkey]
  by_cases hid : name = identityField
  · simp [hid]
  · simp [hkey, hid, Option.filter_eq_some_iff]

/-! ## The reasons -/

variable {α : Type}

/-- An entity has no key: there is none or an empty one, or the fields of the entity do not have the
key field. Where nulls are omitted a key field that is null is not there. -/
def LacksKey (kind : StructuredKind α) (options : CodecOptions) (entity : α) : Prop :=
  kind.key entity = none ∨ kind.key entity = some "" ∨
    ∃ fields, kind.payload entity = .ok (.object fields) ∧
      (Pairs.get? kind.declaration.keyField fields = none ∨
        Pairs.get? kind.declaration.keyField fields = some .null ∧ options.omitNullFields = true)

/-- An entity has no document: it has no fields at all, or some field that is retained holds, at any
depth, a whole number above those of 64 signed bits, or the fields that are retained stand together
for a value that is no document. -/
def LacksDocument (kind : StructuredKind α) (options : CodecOptions) (entity : α) : Prop :=
  (∀ fields, kind.payload entity ≠ .ok (.object fields)) ∨
    ∃ fields, kind.payload entity = .ok (.object fields) ∧
      ((∃ field ∈ retained kind.declaration.keyField options fields,
          ∃ n, (Json.whole n).Occurs field.2 ∧ 2 ^ 63 ≤ n) ∨
        ∃ document found,
          Bson.ofPairs (retained kind.declaration.keyField options fields) = .ok document ∧
            ExtendedJson.read? document = some found)

variable {kind : StructuredKind α} {entity : α}

/-- An entity with a key has a text for it, and its key field, if it has fields, is kept. -/
theorem exists_key_of_not_lacksKey (h : ¬ LacksKey kind options entity) :
    ∃ key, kind.key entity = some key ∧ key ≠ "" ∧
      ∀ fields, kind.payload entity = .ok (.object fields) →
        ∃ value, Pairs.get? kind.declaration.keyField fields = some value ∧
          options.keeps value = true := by
  unfold LacksKey at h
  push Not at h
  obtain ⟨hnone, hempty, hfields⟩ := h
  -- Each of the three reasons that are left out gives one part.
  obtain ⟨key, hkey⟩ := Option.ne_none_iff_exists'.mp hnone
  refine ⟨key, hkey, ?_, fun fields hpayload => ?_⟩
  · rintro rfl
    exact hempty hkey
  · obtain ⟨hsome, hnull⟩ := hfields fields hpayload
    obtain ⟨value, hvalue⟩ := Option.ne_none_iff_exists'.mp hsome
    refine ⟨value, hvalue, (options.keeps_iff value).mpr ?_⟩
    rintro ⟨homit, hisNull⟩
    cases value with
    | null => exact hnull hvalue homit
    | _ => exact absurd hisNull (by simp [isNull])

/-- The fields that are left have a document exactly if those that are retained hold no number that
is too large and do not stand together for another value. -/
theorem exists_document_iff (hdistinct : Pairs.Distinct fields) (hwritable : WritablePairs fields) :
    (∃ document, Document.ofPairs (remaining metadata options fields) = .ok document) ↔
      (∀ field ∈ retained metadata.keyField options fields,
        ∀ n, (Json.whole n).Occurs field.2 → n < 2 ^ 63) ∧
      ∀ document, Bson.ofPairs (retained metadata.keyField options fields) = .ok document →
        ExtendedJson.read? document = none := by
  have hperm : (remaining metadata options fields).Perm
    (retained metadata.keyField options fields) := remaining_perm_retained hdistinct
  -- Neither the conversion nor what the fields stand for depends on their order.
  constructor
  · rintro ⟨document, hof⟩
    obtain ⟨hpairs, hread⟩ := Document.ofPairs_eq_ok_iff.mp hof
    obtain ⟨other, hother, hdocuments⟩ := Bson.exists_ofPairs_perm hperm hpairs
    have hfits := Bson.exists_ofPairs_eq_ok_iff.mp ⟨other, hother⟩
    refine ⟨fun field hfield n hoccurs => (hfits field hfield n hoccurs).2, fun found hfound => ?_⟩
    obtain rfl := Except.ok.inj (hother.symm.trans hfound)
    rw [← ExtendedJson.read?_eq_of_perm hdocuments, hread]
  · rintro ⟨hnumbers, hread⟩
    -- Of the numbers that JSON has, those that are not too large fit.
    have hfits : ∀ field ∈ retained metadata.keyField options fields,
        ∀ n, (Json.whole n).Occurs field.2 → Fits n := by
      intro field hfield n hoccurs
      have hfieldWritable := writablePairs_iff.mp hwritable field (mem_retained.mp hfield).1
      exact ⟨(hfieldWritable.of_occurs hoccurs).1, hnumbers field hfield n hoccurs⟩
    obtain ⟨document, hdocument⟩ := Bson.exists_ofPairs_eq_ok_iff.mpr hfits
    obtain ⟨other, hother, hdocuments⟩ := Bson.exists_ofPairs_perm hperm.symm hdocument
    refine ⟨other, Document.ofPairs_eq_ok_iff.mpr ⟨hother, ?_⟩⟩
    rw [← ExtendedJson.read?_eq_of_perm hdocuments, hread document hdocument]

/-- An entity lacks a document unless it has fields and those that are left have one. -/
theorem not_lacksDocument_iff (hresolve : kind.declaration.resolve = .ok metadata)
    (hdistinct : ∀ fields, kind.payload entity = .ok (.object fields) → Pairs.Distinct fields)
    (hwritable : ∀ payload, kind.payload entity = .ok payload → payload.Writable) :
    ¬ LacksDocument kind options entity ↔ ∃ fields, kind.payload entity = .ok (.object fields) ∧
      ∃ document, Document.ofPairs (remaining metadata options fields) = .ok document := by
  rw [LacksDocument, ← Declaration.keyField_of_resolve hresolve]
  constructor
  · intro h
    push Not at h
    obtain ⟨⟨fields, hpayload⟩, hfields⟩ := h
    have hobject := hwritable _ hpayload
    obtain ⟨hnumbers, hread⟩ := hfields fields hpayload
    refine ⟨fields, hpayload, (exists_document_iff (hdistinct fields hpayload) hobject).mpr
      ⟨hnumbers, fun document hdocument => ?_⟩⟩
    exact Option.eq_none_iff_forall_ne_some.mpr (hread document · hdocument)
  · rintro ⟨fields, hpayload, hdocument⟩ h
    obtain ⟨hnumbers, hread⟩ :=
      (exists_document_iff (hdistinct fields hpayload) (hwritable _ hpayload)).mp hdocument
    rcases h with hnone | ⟨others, hothers, hreason⟩
    · exact hnone fields hpayload
    · obtain rfl := Json.object.inj (Except.ok.inj (hpayload.symm.trans hothers))
      rcases hreason with ⟨field, hfield, n, hoccurs, hlarge⟩ | ⟨document, found, hof, hfound⟩
      · exact absurd (hnumbers field hfield n hoccurs) (by omega)
      · exact absurd ((hread document hof).symm.trans hfound) (by simp)

/-! ## What they lead to -/

/-- An entity that cannot be prepared is refused with the error of its preparation. -/
theorem encode_of_prepare_error {error : StoreError}
    (h : prepare kind options entity = .error error) :
    (encode kind options entity).value = .error error := by
  unfold encode
  rw [h]

/-- A prepared entity ends as its preparation is finished. -/
theorem encode_of_prepare_ok {prepared : Prepared}
    (h : prepare kind options entity = .ok prepared) :
    (encode kind options entity).value = finish prepared := by
  unfold encode
  rw [h]

/-- A prepared entity whose fields have a document is encoded with that document. -/
theorem finish_of_ok {prepared : Prepared} {document : Document}
    (h : Document.ofPairs (withoutIdentity prepared.metadata prepared.fields) = .ok document) :
    finish prepared =
      .ok ⟨prepared.metadata.collection, prepared.key, assemble prepared.key document⟩ := by
  unfold finish
  rw [h]

/-- A prepared entity one of whose fields has no place in a document is refused. -/
theorem finish_of_error {prepared : Prepared} {fault : BsonFault}
    (h : Document.ofPairs (withoutIdentity prepared.metadata prepared.fields) = .error fault) :
    finish prepared = .error (.unstorable fault) := by
  unfold finish
  rw [h]

/-- An entity without a key is refused with a configuration error. -/
theorem encode_of_lacksKey (hresolve : kind.declaration.resolve = .ok metadata)
    (hdistinct : ∀ fields, kind.payload entity = .ok (.object fields) → Pairs.Distinct fields)
    (h : LacksKey kind options entity) :
    ∃ error : StoreError, (encode kind options entity).value = .error error ∧
      error.kind = .configuration := by
  rcases requireKey_cases metadata (kind.key entity) with
    ⟨error, herror, hkind⟩ | ⟨key, hkey, hne, hok⟩
  · -- The key is looked at before the fields.
    refine ⟨error, encode_of_prepare_error ?_, by simpa [StoreError.isConfiguration] using hkind⟩
    simp only [prepare, hresolve, herror, bind, Except.bind]
  · -- The key is there, so it is the key field that is not.
    rw [LacksKey, ← Declaration.keyField_of_resolve hresolve, hkey] at h
    obtain ⟨fields, hpayload, habsent⟩ :=
      (h.resolve_left (by simp)).resolve_left (by simpa using hne)
    have hcontains : Pairs.contains metadata.keyField (keptFields options fields) = false := by
      rw [Pairs.contains, keptFields_eq_filter, Pairs.get?_filter (hdistinct fields hpayload)]
      rcases habsent with hnone | ⟨hnull, homit⟩
      · rw [hnone]
        rfl
      · rw [hnull, Option.filter_some_neg (by simp [CodecOptions.keeps, homit, isNull])]
        rfl
    refine ⟨.keyFieldAbsent metadata.typeName metadata.keyField, encode_of_prepare_error ?_, rfl⟩
    simp [prepare, hresolve, hok, hpayload, requireObject, withoutKey, hcontains, bind, Except.bind]

/-- An entity with a key and fields is finished with the fields that are left. -/
theorem encode_of_not_lacksKey (hresolve : kind.declaration.resolve = .ok metadata)
    (hpayload : kind.payload entity = .ok (.object fields)) (hdistinct : Pairs.Distinct fields)
    (h : ¬ LacksKey kind options entity) :
    (∃ document, Document.ofPairs (remaining metadata options fields) = .ok document ∧
        ∃ encoded, (encode kind options entity).value = .ok encoded) ∨
      ∃ fault, Document.ofPairs (remaining metadata options fields) = .error fault ∧
        (encode kind options entity).value = .error (.unstorable fault) := by
  obtain ⟨key, hkey, hne, hfield⟩ := exists_key_of_not_lacksKey h
  rw [← Declaration.keyField_of_resolve hresolve] at hfield
  have hvalue := encode_of_prepare_ok
    (prepare_eq options hresolve hkey hne hpayload hdistinct (hfield fields hpayload))
  cases hdocument : Document.ofPairs (remaining metadata options fields) with
  | ok document => exact .inl ⟨document, rfl, _, hvalue.trans (finish_of_ok hdocument)⟩
  | error fault => exact .inr ⟨fault, rfl, hvalue.trans (finish_of_error hdocument)⟩

/-- An entity with a key whose payload is no object, or cannot be written at all, is refused for
that, and not for any of its fields. -/
theorem encode_of_no_fields (hresolve : kind.declaration.resolve = .ok metadata)
    (hpayload : ∀ fields, kind.payload entity ≠ .ok (.object fields))
    (h : ¬ LacksKey kind options entity) :
    ∃ error : StoreError, (encode kind options entity).value = .error error ∧
      error.kind = .serialization ∧ ∀ fault, error ≠ .unstorable fault := by
  obtain ⟨key, hkey, hne, -⟩ := exists_key_of_not_lacksKey h
  obtain ⟨error, herror, hkind, hother⟩ := requireObject_of_ne metadata hpayload
  refine ⟨error, encode_of_prepare_error ?_, hkind, hother⟩
  simp [prepare, hresolve, hkey, requireKey, hne, herror, bind, Except.bind]

/-- An entity with a key but without a document is refused with a serialization error. -/
theorem encode_of_lacksDocument (hresolve : kind.declaration.resolve = .ok metadata)
    (hdistinct : ∀ fields, kind.payload entity = .ok (.object fields) → Pairs.Distinct fields)
    (hwritable : ∀ payload, kind.payload entity = .ok payload → payload.Writable)
    (hkey : ¬ LacksKey kind options entity) (h : LacksDocument kind options entity) :
    ∃ error : StoreError, (encode kind options entity).value = .error error ∧
      error.kind = .serialization := by
  by_cases hpayload : ∃ fields, kind.payload entity = .ok (.object fields)
  · obtain ⟨fields, hpayload⟩ := hpayload
    rcases encode_of_not_lacksKey hresolve hpayload (hdistinct fields hpayload) hkey with
      ⟨document, hdocument, -⟩ | ⟨fault, -, hvalue⟩
    · -- Without a document there would have been none to put together.
      have hhas : ¬ LacksDocument kind options entity :=
        (not_lacksDocument_iff hresolve hdistinct hwritable).mpr
          ⟨fields, hpayload, document, hdocument⟩
      exact absurd h hhas
    · -- A value has no place in a document, which is no fault of the declaration.
      exact ⟨_, hvalue, rfl⟩
  · push Not at hpayload
    obtain ⟨error, hvalue, hkind, -⟩ := encode_of_no_fields hresolve hpayload hkey
    exact ⟨error, hvalue, hkind⟩

/-- An entity with a key and a document is encoded. -/
theorem exists_encode (hresolve : kind.declaration.resolve = .ok metadata)
    (hdistinct : ∀ fields, kind.payload entity = .ok (.object fields) → Pairs.Distinct fields)
    (hwritable : ∀ payload, kind.payload entity = .ok payload → payload.Writable)
    (hkey : ¬ LacksKey kind options entity) (h : ¬ LacksDocument kind options entity) :
    ∃ encoded, (encode kind options entity).value = .ok encoded := by
  obtain ⟨fields, hpayload, document, hdocument⟩ :=
    (not_lacksDocument_iff hresolve hdistinct hwritable).mp h
  rcases encode_of_not_lacksKey hresolve hpayload (hdistinct fields hpayload) hkey with
    ⟨_, -, hvalue⟩ | ⟨fault, hfault, -⟩
  · exact hvalue
  · exact absurd (hdocument.symm.trans hfault) (by simp)

/-! ## The verdict -/

/-- What becomes of an entity is decided by its key and its document. -/
structure Judged (kind : StructuredKind α) (options : CodecOptions) (entity : α) : Prop where
  /-- It is refused with a configuration error exactly if it lacks a key. -/
  configuration_iff : (∃ error : StoreError, (encode kind options entity).value = .error error ∧
    error.kind = .configuration) ↔ LacksKey kind options entity
  /-- Otherwise it is refused with a serialization error exactly if it lacks a document. -/
  serialization_iff : (∃ error : StoreError, (encode kind options entity).value = .error error ∧
    error.kind = .serialization) ↔
      ¬ LacksKey kind options entity ∧ LacksDocument kind options entity
  /-- In all other cases it is encoded. -/
  encoded_iff : (∃ encoded, (encode kind options entity).value = .ok encoded) ↔
    ¬ LacksKey kind options entity ∧ ¬ LacksDocument kind options entity
  /-- A number for which it is refused stands in a field that is retained: beside the key field and
  beside the one that is named like the identity. -/
  number_retained : ∀ n, (encode kind options entity).value = .error (.unstorable (.tooLarge n)) →
    ∃ fields, kind.payload entity = .ok (.object fields) ∧
      ∃ field ∈ retained kind.declaration.keyField options fields,
        (Json.whole n).Occurs field.2

/-- Two reasons, the first of which goes before the second, and three endings that exclude one
another: where each case leads to its ending, the ending tells the case. -/
theorem iff_of_exclusive {key document configuration serialization encoded : Prop}
    (hconfiguration : key → configuration) (hserialization : ¬ key → document → serialization)
    (hencoded : ¬ key → ¬ document → encoded) (hfirst : configuration → ¬ serialization)
    (hsecond : configuration → ¬ encoded) (hthird : serialization → ¬ encoded) :
    (configuration ↔ key) ∧ (serialization ↔ ¬ key ∧ document) ∧
      (encoded ↔ ¬ key ∧ ¬ document) := by
  tauto

/-- An entity is not refused with errors of two kinds. -/
theorem not_refused_of_ne {first second : ErrorKind} (hne : first ≠ second)
    (h : ∃ error : StoreError, (encode kind options entity).value = .error error ∧
      error.kind = first) :
    ¬ ∃ error : StoreError, (encode kind options entity).value = .error error ∧
      error.kind = second := by
  obtain ⟨error, hvalue, rfl⟩ := h
  rintro ⟨other, hother, rfl⟩
  exact hne (congrArg StoreError.kind (Except.error.inj (hvalue.symm.trans hother)))

/-- An entity that is refused is not encoded. -/
theorem not_encoded_of_refused {found : ErrorKind}
    (h : ∃ error : StoreError, (encode kind options entity).value = .error error ∧
      error.kind = found) :
    ¬ ∃ encoded, (encode kind options entity).value = .ok encoded := by
  obtain ⟨error, hvalue, -⟩ := h
  rintro ⟨encoded, hother⟩
  exact absurd (hvalue.symm.trans hother) (by simp)

/-- The number for which an entity is refused stands in a field that is retained. -/
theorem exists_retained_of_tooLarge (hresolve : kind.declaration.resolve = .ok metadata)
    (hdistinct : ∀ fields, kind.payload entity = .ok (.object fields) → Pairs.Distinct fields)
    {n : Int} (h : (encode kind options entity).value = .error (.unstorable (.tooLarge n))) :
    ∃ fields, kind.payload entity = .ok (.object fields) ∧
      ∃ field ∈ retained kind.declaration.keyField options fields,
        (Json.whole n).Occurs field.2 := by
  -- The error is neither about the key nor about the payload as a whole.
  have hkey : ¬ LacksKey kind options entity := by
    intro hlacks
    obtain ⟨error, hvalue, hkind⟩ := encode_of_lacksKey hresolve hdistinct hlacks
    obtain rfl := Except.error.inj (hvalue.symm.trans h)
    simp [StoreError.kind] at hkind
  by_cases hpayload : ∃ fields, kind.payload entity = .ok (.object fields)
  · obtain ⟨fields, hpayload⟩ := hpayload
    have hfields := hdistinct fields hpayload
    refine ⟨fields, hpayload, ?_⟩
    rcases encode_of_not_lacksKey hresolve hpayload hfields hkey with
      ⟨_, -, encoded, hok⟩ | ⟨fault, hfault, herror⟩
    · exact absurd (h.symm.trans hok) (by simp)
    · obtain rfl : BsonFault.tooLarge n = fault := by simpa using h.symm.trans herror
      obtain ⟨m, hm, field, hfield, hoccurs, -⟩ :=
        Bson.exists_occurs_of_ofPairs_eq_error (Document.ofPairs_eq_tooLarge hfault)
      obtain rfl := BsonFault.tooLarge.inj hm
      rw [← Declaration.keyField_of_resolve hresolve]
      exact ⟨field, (remaining_perm_retained hfields).mem_iff.mp hfield, hoccurs⟩
  · push Not at hpayload
    obtain ⟨error, hvalue, -, hother⟩ := encode_of_no_fields hresolve hpayload hkey
    exact absurd (Except.error.inj (hvalue.symm.trans h)) (hother _)

/-- An entity whose declaration keeps the rules is refused for its key, or else for its document,
and for nothing else. -/
theorem encode_judged_by_key_and_document (hresolve : kind.declaration.resolve = .ok metadata)
    (hdistinct : ∀ fields, kind.payload entity = .ok (.object fields) → Pairs.Distinct fields)
    (hwritable : ∀ payload, kind.payload entity = .ok payload → payload.Writable)
    (options : CodecOptions) :
    Judged kind options entity := by
  have hlacksKey : LacksKey kind options entity → _ := encode_of_lacksKey hresolve hdistinct
  have hlacksDocument : ¬ LacksKey kind options entity → LacksDocument kind options entity → _ :=
    encode_of_lacksDocument hresolve hdistinct hwritable
  have hexists : ¬ LacksKey kind options entity → ¬ LacksDocument kind options entity → _ :=
    exists_encode hresolve hdistinct hwritable
  obtain ⟨hconfiguration, hserialization, hencoded⟩ := iff_of_exclusive hlacksKey hlacksDocument
    hexists (not_refused_of_ne (by decide)) not_encoded_of_refused not_encoded_of_refused
  exact ⟨hconfiguration, hserialization, hencoded,
    fun _ => exists_retained_of_tooLarge hresolve hdistinct⟩

/-- A number that is too large does no harm in the two fields that are left out, and it does in any
other one. There the key field goes before it, where nulls are omitted. -/
theorem encode_judged_by_key_and_document_large :
    let kind := Loose.kind ⟨"specimen::Loose", "loose", "key"⟩
    let large : Json := .array [.whole 18446744073709551615]
    let harmless : Loose := ⟨some "k", .object [("key", large), ("_id", large)]⟩
    let refused : Loose := ⟨some "k", .object [("key", .null), ("a", .object [("b", large)])]⟩
    (∃ encoded, (encode kind {} harmless).value = .ok encoded) ∧
      (∃ error : StoreError, (encode kind { omitNullFields := false } refused).value =
        .error error ∧ error.kind = .serialization) ∧
      ∃ error : StoreError, (encode kind {} refused).value = .error error ∧
        error.kind = .configuration := by
  intro kind large harmless refused
  have hresolve : kind.declaration.resolve = .ok ⟨"Loose", "loose", "key"⟩ := by
    show Declaration.resolve ⟨"specimen::Loose", "loose", "key"⟩ = _
    rfl
  have hlarge : large.Writable := ⟨⟨by decide, by decide⟩, trivial⟩
  have hkept : ∀ payload, kind.payload harmless = .ok payload → payload.Writable := by
    rintro _ ⟨⟩
    exact ⟨hlarge, hlarge, trivial⟩
  have hother : ∀ payload, kind.payload refused = .ok payload → payload.Writable := by
    rintro _ ⟨⟩
    exact ⟨trivial, ⟨hlarge, trivial⟩, trivial⟩
  have hnames : ∀ fields, kind.payload harmless = .ok (.object fields) → Pairs.Distinct fields := by
    rintro _ ⟨⟩
    decide
  have hothers : ∀ fields, kind.payload refused = .ok (.object fields) → Pairs.Distinct fields := by
    rintro _ ⟨⟩
    decide
  have hharmless := encode_judged_by_key_and_document hresolve hnames hkept {}
  have hrefused := encode_judged_by_key_and_document hresolve hothers hother
  refine ⟨hharmless.encoded_iff.mpr ⟨?_, ?_⟩, (hrefused _).serialization_iff.mpr ⟨?_, ?_⟩,
    (hrefused _).configuration_iff.mpr (.inr (.inr ⟨_, rfl, .inr ⟨rfl, rfl⟩⟩))⟩
  · simp [LacksKey, kind, harmless, Loose.kind, Pairs.get?, large]
  · rw [not_lacksDocument_iff hresolve hnames hkept]
    exact ⟨_, rfl, [], rfl⟩
  · simp [LacksKey, kind, refused, Loose.kind, Pairs.get?]
  · -- The number stands in the list that is the field of the one object that is retained.
    have hinner : (Json.whole 18446744073709551615).Occurs (.object [("b", large)]) :=
      .field (List.mem_singleton_self ("b", large)) (.item (List.mem_singleton_self _) .here)
    refine .inr ⟨_, rfl, .inl ⟨("a", .object [("b", large)]), ?_, _, hinner, by decide⟩⟩
    rw [mem_retained]
    simp [kind, Loose.kind, identityField, CodecOptions.keeps, isNull]

end KeyedStore.Codec
