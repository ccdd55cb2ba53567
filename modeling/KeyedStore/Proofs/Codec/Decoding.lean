import KeyedStore.Codec.Structured
import KeyedStore.Proofs.Bson.Plain
import KeyedStore.Proofs.Entity.Fields
import KeyedStore.Proofs.Json.Reading

/-!
# Decoding any document

A document that others have written may hold values of every sort. Its text is always JSON, and an
entity is read from the pairs of the document, with the key under its own name and every double as
its text is read.

- `Bson.writable_toJson`: what is shown of a value can be written and read again;
- `pairsRead`: the pairs that an entity is read from;
- `decode_eq_ok_iff`, `decode_of_fault`: what is decoded is what the kind reads from them.

## References

- SPEC_FULL.md, section 4.2, steps 2 to 4 of loading
-/

namespace KeyedStore

open Json

namespace Json

/-- Reading pairs again changes no name. -/
theorem names_rereadPairs (pairs : List (String × Json)) :
    Pairs.names (rereadPairs pairs) = Pairs.names pairs := by
  induction pairs with
  | nil => rfl
  | cons pair pairs ih =>
    obtain ⟨name, value⟩ := pair
    simp only [rereadPairs, Pairs.names, List.map_cons] at ih ⊢
    rw [ih]

/-- What is read again under a name is what was there, read again. -/
theorem get?_rereadPairs (name : String) (pairs : List (String × Json)) :
    Pairs.get? name (rereadPairs pairs) = (Pairs.get? name pairs).map reread := by
  induction pairs with
  | nil => rfl
  | cons pair pairs ih =>
    obtain ⟨other, value⟩ := pair
    rw [rereadPairs, Pairs.get?, Pairs.get?, ih]
    split_ifs <;> rfl

end Json

namespace Bson

/-- What a reader is shown under a name is the value that the document has there, shown. -/
theorem get?_pairsToJson (name : String) (document : Document) :
    Pairs.get? name (pairsToJson document) = (Pairs.get? name document).map toJson := by
  induction document with
  | nil => rfl
  | cons pair document ih =>
    obtain ⟨other, value⟩ := pair
    rw [pairsToJson, Pairs.get?, Pairs.get?, ih]
    split_ifs <;> rfl

/-- A number of milliseconds is shown as a value that can be written, with or without an instant. -/
theorem writable_instantJson {millis : Int} (hlow : -2 ^ 63 ≤ millis) (hhigh : millis < 2 ^ 64) :
    Writable (instantJson millis) := by
  unfold instantJson
  split
  · trivial
  · exact ⟨hlow, hhigh⟩

mutual

/-- Every integer that is shown has at most 64 bits. -/
theorem writable_toJson : ∀ value : Bson, Writable value.toJson
  | .double x => by
    rw [toJson]
    split_ifs <;> trivial
  | .array items => writable_itemsToJson items
  | .document pairs => writable_pairsToJson pairs
  | .int32 n => by
    have hlow := n.le_toInt
    have hhigh := n.toInt_lt
    exact ⟨by omega, by omega⟩
  | .int64 n => by
    have hhigh := n.toInt_lt
    exact ⟨n.le_toInt, by omega⟩
  | .timestamp time _ => by
    have hhigh := time.toNat_lt
    exact writable_instantJson (by omega) (by omega)
  | .dateTime millis => by
    have hhigh := millis.toInt_lt
    exact writable_instantJson millis.le_toInt (by omega)
  | .string _ | .boolean _ | .null | .regularExpression _ _ | .code _ | .codeWithScope _ _
  | .binary _ _ | .objectId _ | .symbol _ | .decimal _ | .undefined | .maxKey | .minKey
  | .dbPointer _ _ => trivial

/-- So has every integer in a list. -/
theorem writable_itemsToJson : ∀ items : List Bson, WritableItems (itemsToJson items)
  | [] => trivial
  | item :: items => ⟨writable_toJson item, writable_itemsToJson items⟩

/-- So has every integer in a document. -/
theorem writable_pairsToJson : ∀ pairs : List (String × Bson), WritablePairs (pairsToJson pairs)
  | [] => trivial
  | (_, value) :: pairs => ⟨writable_toJson value, writable_pairsToJson pairs⟩

end

end Bson

namespace Codec

variable {α : Type} {metadata : Metadata} {document : Document} {key : String}

/-- The pairs that an entity is read from. -/
def pairsRead (metadata : Metadata) (document : Document) (key : String) : List (String × Json) :=
  rereadPairs (Bson.pairsToJson (relocate metadata document key))

/-- An entity is read from the key that its document is looked up by, under the name of the key
field. -/
theorem get?_pairsRead_key (metadata : Metadata) (document : Document) (key : String) :
    Pairs.get? metadata.keyField (pairsRead metadata document key) = some (.string key) := by
  rw [pairsRead, get?_rereadPairs, Bson.get?_pairsToJson, relocate, Pairs.get?_insert_self]
  rfl

/-- Under any other name an entity is read from what the document has there. -/
theorem get?_pairsRead_of_ne {name : String} (hkey : name ≠ metadata.keyField)
    (hidentity : name ≠ identityField) (document : Document) (key : String) :
    Pairs.get? name (pairsRead metadata document key) =
      (Pairs.get? name document).map fun value => value.toJson.reread := by
  rw [pairsRead, get?_rereadPairs, Bson.get?_pairsToJson, relocate, Pairs.get?_insert_of_ne hkey,
    Pairs.get?_erase_of_ne hidentity, Option.map_map]
  rfl

/-- No name stands twice in what an entity is read from. -/
theorem distinct_pairsRead (h : Pairs.Distinct document) :
    Pairs.Distinct (pairsRead metadata document key) := by
  have hrelocate : Pairs.Distinct (relocate metadata document key) :=
    (h.erase identityField).insert metadata.keyField (.string key)
  unfold Pairs.Distinct at hrelocate ⊢
  rwa [pairsRead, names_rereadPairs, Bson.names_pairsToJson]

/-- The text of a document is JSON, whatever the document holds. -/
theorem readText_intermediate (kind : StructuredKind α) (metadata : Metadata) (document : Document)
    (key : String) :
    readText kind (intermediate metadata document key) =
      kind.read (.object (pairsRead metadata document key)) := by
  have hwritable : Writable (relocate metadata document key).toJson := Bson.writable_pairsToJson _
  rw [readText, intermediate, read?_render_writable hwritable]
  rfl

variable {kind : StructuredKind α} (options : CodecOptions)

/-- What is decoded is what the kind reads. -/
theorem decode_eq_ok_iff (hresolve : kind.declaration.resolve = .ok metadata) {entity : α} :
    decode kind options document key = .ok entity ↔
      kind.read (.object (pairsRead metadata document key)) = .ok entity := by
  simp only [decode, hresolve, bind, Except.bind, readText_intermediate]
  split <;> simp_all

/-- What the kind does not read is undecodable. -/
theorem decode_of_fault (hresolve : kind.declaration.resolve = .ok metadata) {fault : DecodeFault}
    (h : kind.read (.object (pairsRead metadata document key)) = .error fault) :
    ∃ excerpt, decode kind options document key =
      .error (.undecodable metadata.typeName metadata.collection key fault excerpt) := by
  simp only [decode, hresolve, bind, Except.bind, readText_intermediate, h]
  exact ⟨_, rfl⟩

end Codec

end KeyedStore
