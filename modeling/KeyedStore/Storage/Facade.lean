import KeyedStore.Codec.Binary
import KeyedStore.Storage.Routine

/-!
# The operations of the store

Storing, loading, finding and deleting entities, structured and binary ones in the same way. An
operation fails only with configuration errors. Every other error is reported and settled: the
operation ends as if there were nothing to find or nothing to do.

Each operation describes its type first, so a wrong declaration is found before anything else.

## References

- SPEC_FULL.md, sections 4.4, 7 and 10.6: `store_structured`, `load_structured`,
  `exists_structured`, `delete_structured`, their binary counterparts, `settle`, `count`, `delete`
-/

namespace KeyedStore.Facade

/-- The part of the program that writes the entries of the operations. -/
def source : String := "entity_datastore::services::storage::data_storage_service"

/-- A line about something that was done. -/
def info (message : String) : Routine Unit :=
  .log ⟨.info, source, message⟩

/-- What stands for the key of an entity that has none. -/
def noKey : String := "<null>"

variable {α β : Type}

/-- Let configuration errors pass, report every other error and end with the given value instead:
`settle`, which all operations go through. -/
def settle (operation : String) (metadata : Metadata) (key : String) (fallback : β)
    (body : Routine β) : Routine β := do
  match ← body.attempt with
  | .ok value => pure value
  | .error error =>
    -- A configuration error is the only one that a caller sees.
    if error.isConfiguration then .fail error
    else
      .emit (.report ⟨operation, metadata.collection, key, metadata.typeName, error⟩)
        (.done fallback)

/-- Whether there is a document in a slot. -/
def occupied (slot : Slot) : Routine Bool := do
  return 0 < (← .count slot)

/-- Empty a slot. -/
def clear (slot : Slot) : Routine Unit := do
  Routine.delete slot
  info ("🗑️ [DataStorage] 삭제 완료: collection=" ++ slot.collection ++ ", key=" ++ slot.id)

/-- Store a structured entity in place of the one with the same key. -/
def store (kind : StructuredKind α) (entity : α) : Routine Unit := do
  let metadata ← .ofExcept kind.declaration.resolve
  settle "store_structured" metadata ((kind.key entity).getD noKey) () do
    let options ← .codec
    -- What the codec has written to the log stays there even if it fails.
    let encoded ← .ofExcept (← .ofLogged (Codec.encode kind options entity))
    Routine.upsert ⟨encoded.collection, encoded.key⟩ encoded.document
    info ("💾 [DataStorage] 저장 완료: collection=" ++ encoded.collection ++ ", key=" ++ encoded.key)

/-- Load the structured entity of a key. -/
def load (kind : StructuredKind α) (key : String) : Routine (Option α) := do
  let metadata ← .ofExcept kind.declaration.resolve
  settle "load_structured" metadata key none do
    match ← .find ⟨metadata.collection, key⟩ with
    | none => pure none
    | some document =>
      let options ← .codec
      let entity ← .ofExcept (Codec.decode kind options document key)
      pure (some entity)

/-- Whether there is a structured entity of a key. -/
def exists? (kind : StructuredKind α) (key : String) : Routine Bool := do
  let metadata ← .ofExcept kind.declaration.resolve
  settle "exists_structured" metadata key false (occupied ⟨metadata.collection, key⟩)

/-- Delete the structured entity of a key, if there is one. -/
def delete (kind : StructuredKind α) (key : String) : Routine Unit := do
  let metadata ← .ofExcept kind.declaration.resolve
  settle "delete_structured" metadata key () (clear ⟨metadata.collection, key⟩)

/-- Store a binary entity in place of the one with the same key; memory grants no more than
`granted` bytes at once. -/
def storeBinary (granted : Nat) (kind : BinaryKind α) (entity : α) : Routine Unit := do
  let metadata ← .ofExcept kind.declaration.resolve
  settle "store_binary" metadata ((kind.key entity).getD noKey) () do
    let encoded ← .ofOutcome (Codec.encodeBinary granted kind entity)
    Routine.upsert ⟨encoded.collection, encoded.key⟩ encoded.document
    info ("💾 [DataStorage] 바이너리 저장 완료: collection=" ++ encoded.collection ++ ", key=" ++
      encoded.key ++ ", bytes=" ++ Text.decimal (kind.size entity).toNat)

/-- Load the binary entity of a key. -/
def loadBinary (kind : BinaryKind α) (key : String) : Routine (Option α) := do
  let metadata ← .ofExcept kind.declaration.resolve
  settle "load_binary" metadata key none do
    match ← .find ⟨metadata.collection, key⟩ with
    | none => pure none
    | some document =>
      let entity ← .ofExcept (Codec.decodeBinary kind document key)
      pure (some entity)

/-- Whether there is a binary entity of a key. -/
def existsBinary (kind : BinaryKind α) (key : String) : Routine Bool := do
  let metadata ← .ofExcept kind.declaration.resolve
  settle "exists_binary" metadata key false (occupied ⟨metadata.collection, key⟩)

/-- Delete the binary entity of a key, if there is one. -/
def deleteBinary (kind : BinaryKind α) (key : String) : Routine Unit := do
  let metadata ← .ofExcept kind.declaration.resolve
  settle "delete_binary" metadata key () (clear ⟨metadata.collection, key⟩)

end KeyedStore.Facade
