import KeyedStore.Bson.ToJson
import KeyedStore.Codec.Options
import KeyedStore.Entity.Kind
import KeyedStore.Json.Reader
import KeyedStore.Json.Text
import KeyedStore.Log
import KeyedStore.Text.Basic

/-!
# The codec of structured entities

An entity becomes a flat document: its key under the identity field, and every other field under
its own name. The key is kept nowhere else.

On the way back the identity gives way to the key field, the document is shown as JSON, and the
entity is read from that text. A document that is not an entity of the type is an error that quotes
the beginning of the text.

## References

- SPEC_FULL.md, sections 4.2 and 10.4: `encode_structured`, `to_intermediate_json`,
  `decode_structured`, `require_key`, `strip_null_fields`, `json_kind`
-/

namespace KeyedStore.Codec

/-- The part of the program that writes the entries of the codec. -/
def source : String := "entity_datastore::codec::document_codec"

/-- The key of an entity, which must be there and must not be empty. -/
def requireKey (metadata : Metadata) : Option String → Except StoreError String
  | none => .error (.nullKey metadata.typeName metadata.keyField)
  | some key =>
    if key = "" then .error (.emptyKey metadata.typeName metadata.keyField) else .ok key

/-- The pairs of a payload, which must be there and must be an object. -/
def requireObject (metadata : Metadata) :
    Except String Json → Except StoreError (List (String × Json))
  | .ok (.object pairs) => .ok pairs
  | .ok other => .error (.notObject metadata.typeName other.kind)
  | .error detail => .error (.unserializable detail)

/-- The fields that are kept under the options. -/
def keptFields (options : CodecOptions) (fields : List (String × Json)) :
    List (String × Json) :=
  if options.omitNullFields then fields.filter (fun field => !field.2.isNull) else fields

/-- The fields without the key field, which must be there. -/
def withoutKey (metadata : Metadata) (fields : List (String × Json)) :
    Except StoreError (List (String × Json)) :=
  if Pairs.contains metadata.keyField fields then .ok (Pairs.swapErase metadata.keyField fields)
  else .error (.keyFieldAbsent metadata.typeName metadata.keyField)

/-- Whether there is a field that would take the place of the identity. -/
def shadowsIdentity (metadata : Metadata) (fields : List (String × Json)) : Bool :=
  metadata.keyField ≠ identityField ∧ Pairs.contains identityField fields

/-- The fields without one that would take the place of the identity. -/
def withoutIdentity (metadata : Metadata) (fields : List (String × Json)) :
    List (String × Json) :=
  if shadowsIdentity metadata fields then Pairs.swapErase identityField fields else fields

/-- The warning that a field has been left out because of its name. -/
def shadowWarning (metadata : Metadata) : LogEntry :=
  ⟨.warn, source, "[DataStorage] `_id` 필드는 식별자 전용이므로 제외합니다: collection=" ++
    metadata.collection ++ ", type=" ++ metadata.typeName⟩

/-- A key and the fields beside it as one document. -/
def assemble (key : String) (payload : Document) : Document :=
  Pairs.insertAll payload [(identityField, .string key)]

/-- What has to be known of an entity before its fields are turned into values. -/
structure Prepared where
  /-- The description of its type. -/
  metadata : Metadata
  /-- Its key. -/
  key : String
  /-- The fields beside the key field. -/
  fields : List (String × Json)

variable {α : Type}

/-- Check the declaration and the key of an entity and take its fields apart: `encode_structured` up
to the removal of the key field. -/
def prepare (kind : StructuredKind α) (options : CodecOptions) (entity : α) :
    Except StoreError Prepared := do
  let metadata ← kind.declaration.resolve
  let key ← requireKey metadata (kind.key entity)
  let fields ← requireObject metadata (kind.payload entity)
  let rest ← withoutKey metadata (keptFields options fields)
  return ⟨metadata, key, rest⟩

/-- The document of an entity that has been prepared: what is left of `encode_structured`. -/
def finish (prepared : Prepared) : Except StoreError Encoded :=
  match Document.ofPairs (withoutIdentity prepared.metadata prepared.fields) with
  | .error fault => .error (.unstorable fault)
  | .ok payload =>
    .ok ⟨prepared.metadata.collection, prepared.key, assemble prepared.key payload⟩

/-- Turn an entity into a document. -/
def encode (kind : StructuredKind α) (options : CodecOptions) (entity : α) :
    Logged (Except StoreError Encoded) :=
  match prepare kind options entity with
  | .error error => ⟨[], .error error⟩
  | .ok prepared =>
    -- The warning is due as soon as the field is left out, whatever becomes of the others.
    let warnings :=
      if shadowsIdentity prepared.metadata prepared.fields then [shadowWarning prepared.metadata]
      else []
    ⟨warnings, finish prepared⟩

/-- A document as an entity is read from it: with the key under its own name. -/
def relocate (metadata : Metadata) (document : Document) (key : String) : Document :=
  Pairs.insert metadata.keyField (.string key) (Pairs.erase identityField document)

/-- The JSON text that an entity is read from. -/
def intermediate (metadata : Metadata) (document : Document) (key : String) : List Char :=
  (relocate metadata document key).toJson.render

/-- Read an entity from the JSON text of its document. -/
def readText (kind : StructuredKind α) (text : List Char) : Except DecodeFault α :=
  match Json.read? text with
  | none => .error .notJson
  | some value => kind.read value

/-- Turn a document back into an entity. -/
def decode (kind : StructuredKind α) (options : CodecOptions) (document : Document)
    (key : String) : Except StoreError α := do
  let metadata ← kind.declaration.resolve
  let text := intermediate metadata document key
  match readText kind text with
  | .ok entity => .ok entity
  | .error fault =>
    .error (.undecodable metadata.typeName metadata.collection key fault
      (Text.excerpt (String.ofList text) options.diagnosticLimit))

end KeyedStore.Codec
