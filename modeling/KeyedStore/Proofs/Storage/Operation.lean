import KeyedStore.Proofs.Codec.Shown
import KeyedStore.Proofs.Storage.Trace

/-!
# Operations

The eight operations of the store are four, each for entities of two sorts. `Operation.routine` is
the operation as the store offers it; `Operation.steps` is what it asks of the codec and of the
backend, without a word about what becomes of a failure.

- `Kind.encode_eq_done`: a document is for the collection of its type and for the entity's own key;
- `Kind.encode_cases`: an entity is refused as misconfigured, or it has a key.

## References

- SPEC_FULL.md, section 4.4
-/

namespace KeyedStore

/-- A type of entities, of either sort. -/
inductive Kind (α : Type) where
  /-- Kept field by field. -/
  | structured (kind : StructuredKind α)
  /-- Kept as one piece of bytes, where memory grants no more than `granted` at once. -/
  | binary (granted : Nat) (kind : BinaryKind α)

namespace Kind

variable {α : Type}

/-- Where the entities are kept. -/
def declaration : Kind α → Declaration
  | .structured kind => kind.declaration
  | .binary _ kind => kind.declaration

/-- The key of an entity, if it has one. -/
def key : Kind α → α → Option String
  | .structured kind => kind.key
  | .binary _ kind => kind.key

/-- The document of an entity. -/
def encode (options : CodecOptions) (entity : α) : Kind α → Outcome Encoded
  | .structured kind => .ofExcept (Codec.encode kind options entity).value
  | .binary granted kind => Codec.encodeBinary granted kind entity

/-- The entity of a document. -/
def decode (options : CodecOptions) (document : Document) (key : String) :
    Kind α → Except StoreError α
  | .structured kind => Codec.decode kind options document key
  | .binary _ kind => Codec.decodeBinary kind document key

/-- Store an entity. -/
def store (entity : α) : Kind α → Routine Unit
  | .structured kind => Facade.store kind entity
  | .binary granted kind => Facade.storeBinary granted kind entity

/-- Load the entity of a key. -/
def load (key : String) : Kind α → Routine (Option α)
  | .structured kind => Facade.load kind key
  | .binary _ kind => Facade.loadBinary kind key

/-- Whether there is an entity of a key. -/
def exists? (key : String) : Kind α → Routine Bool
  | .structured kind => Facade.exists? kind key
  | .binary _ kind => Facade.existsBinary kind key

/-- Delete the entity of a key. -/
def delete (key : String) : Kind α → Routine Unit
  | .structured kind => Facade.delete kind key
  | .binary _ kind => Facade.deleteBinary kind key

/-- What storing an entity asks of the codec and of the backend. -/
def storeSteps (kind : Kind α) (entity : α) : Routine Unit := do
  let encoded ← .ofOutcome (kind.encode (← .codec) entity)
  Routine.upsert ⟨encoded.collection, encoded.key⟩ encoded.document

/-- What loading an entity asks of the backend and of the codec. -/
def loadSteps (kind : Kind α) (key : String) : Routine (Option α) := do
  let metadata ← .ofExcept kind.declaration.resolve
  match ← .find ⟨metadata.collection, key⟩ with
  | none => return none
  | some document => return some (← .ofExcept (kind.decode (← .codec) document key))

/-- What looking for an entity asks of the backend. -/
def existsSteps (kind : Kind α) (key : String) : Routine Bool := do
  let metadata ← .ofExcept kind.declaration.resolve
  return 0 < (← .count ⟨metadata.collection, key⟩)

/-- What deleting an entity asks of the backend. -/
def deleteSteps (kind : Kind α) (key : String) : Routine Unit := do
  let metadata ← .ofExcept kind.declaration.resolve
  Routine.delete ⟨metadata.collection, key⟩

end Kind

/-- An operation on entities of some type. -/
inductive Operation : Type 1 where
  /-- Store an entity. -/
  | store {α : Type} (kind : Kind α) (entity : α)
  /-- Load the entity of a key. -/
  | load {α : Type} (kind : Kind α) (key : String)
  /-- Whether there is an entity of a key. -/
  | exists? {α : Type} (kind : Kind α) (key : String)
  /-- Delete the entity of a key. -/
  | delete {α : Type} (kind : Kind α) (key : String)

namespace Operation

/-- The type of the value of an operation. -/
def Answer : Operation → Type
  | .store _ _ => Unit
  | @load α _ _ => Option α
  | .exists? _ _ => Bool
  | .delete _ _ => Unit

/-- The operation as the store offers it. -/
def routine : (operation : Operation) → Routine operation.Answer
  | .store kind entity => kind.store entity
  | .load kind key => kind.load key
  | .exists? kind key => kind.exists? key
  | .delete kind key => kind.delete key

/-- What an operation asks of the codec and of the backend, one after the other. -/
def steps : (operation : Operation) → Routine operation.Answer
  | .store kind entity => kind.storeSteps entity
  | .load kind key => kind.loadSteps key
  | .exists? kind key => kind.existsSteps key
  | .delete kind key => kind.deleteSteps key

/-- The name of an operation. -/
def name : Operation → String
  | .store (.structured _) _ => "store_structured"
  | .store (.binary _ _) _ => "store_binary"
  | .load (.structured _) _ => "load_structured"
  | .load (.binary _ _) _ => "load_binary"
  | .exists? (.structured _) _ => "exists_structured"
  | .exists? (.binary _ _) _ => "exists_binary"
  | .delete (.structured _) _ => "delete_structured"
  | .delete (.binary _ _) _ => "delete_binary"

/-- Where the entities of an operation are kept. -/
def declaration : Operation → Declaration
  | .store kind _ => kind.declaration
  | .load kind _ => kind.declaration
  | .exists? kind _ => kind.declaration
  | .delete kind _ => kind.declaration

/-- The key that an operation is about, if there is one. -/
def key? : Operation → Option String
  | .store kind entity => kind.key entity
  | .load _ key => some key
  | .exists? _ key => some key
  | .delete _ key => some key

/-- Whether an operation stores an entity. -/
def isStore : Operation → Bool
  | .store _ _ => true
  | .load _ _ | .exists? _ _ | .delete _ _ => false

/-- The value of an operation that finds nothing or does nothing. -/
def negative : (operation : Operation) → operation.Answer
  | .store _ _ => ()
  | .load _ _ => none
  | .exists? _ _ => false
  | .delete _ _ => ()

end Operation

/-! ## Errors of the codec -/

namespace Kind

variable {α : Type} {options : CodecOptions} {entity : α}

/-- An entity whose declaration breaks a rule is not encoded. -/
theorem encode_of_unresolved {kind : Kind α} {error : StoreError}
    (h : kind.declaration.resolve = .error error) : kind.encode options entity = .failed error := by
  cases kind with
  | structured kind =>
    rw [declaration] at h
    simp [encode, Codec.encode, Codec.prepare, h, bind, Except.bind, Outcome.ofExcept]
  | binary granted kind =>
    exact Codec.encodeBinary_of_unresolved h

/-- An entity whose key is refused is not encoded. -/
theorem encode_of_refusedKey {kind : Kind α} {metadata : Metadata} {error : StoreError}
    (hresolve : kind.declaration.resolve = .ok metadata)
    (h : Codec.requireKey metadata (kind.key entity) = .error error) :
    kind.encode options entity = .failed error := by
  cases kind with
  | structured kind =>
    rw [declaration] at hresolve
    rw [key] at h
    simp [encode, Codec.encode, Codec.prepare, hresolve, h, bind, Except.bind, Outcome.ofExcept]
  | binary granted kind =>
    exact Codec.encodeBinary_of_refusedKey hresolve h

/-- The document of an entity is for the collection of its type and for its own key. -/
theorem encode_eq_done {kind : Kind α} {encoded : Encoded}
    (h : kind.encode options entity = .done encoded) :
    ∃ metadata, kind.declaration.resolve = .ok metadata ∧
      Codec.requireKey metadata (kind.key entity) = .ok encoded.key ∧
      encoded.collection = metadata.collection := by
  cases kind with
  | structured kind =>
    rw [encode] at h
    cases hvalue : (Codec.encode kind options entity).value with
    | error error => simp [hvalue, Outcome.ofExcept] at h
    | ok other =>
      rw [hvalue] at h
      obtain rfl : other = encoded := Outcome.done.inj h
      obtain ⟨prepared, hprepare, hfinish⟩ := Codec.encode_eq_ok hvalue
      obtain ⟨hresolve, hkey, -⟩ := Codec.prepare_eq_ok hprepare
      obtain ⟨payload, -, rfl⟩ := Codec.finish_eq_ok hfinish
      exact ⟨prepared.metadata, hresolve, hkey, rfl⟩
  | binary granted kind =>
    -- A binary entity has passed the same two checks before its bytes are read.
    obtain ⟨metadata, key, bytes, hresolve, hkey, -, rfl⟩ := Codec.encodeBinary_eq_done h
    exact ⟨metadata, hresolve, hkey, rfl⟩

/-- An entity is refused as misconfigured, or it has a key, under which it is stored. -/
theorem encode_cases (kind : Kind α) (options : CodecOptions) (entity : α) :
    (∃ error, kind.encode options entity = .failed error ∧ error.isConfiguration = true) ∨
      ∃ metadata key, kind.declaration.resolve = .ok metadata ∧ kind.key entity = some key ∧
        key ≠ "" ∧ ∀ encoded, kind.encode options entity = .done encoded →
          encoded.collection = metadata.collection ∧ encoded.key = key := by
  cases hresolve : kind.declaration.resolve with
  | error error =>
    exact .inl ⟨error, encode_of_unresolved hresolve,
      Declaration.isConfiguration_of_resolve hresolve⟩
  | ok metadata =>
    rcases Codec.requireKey_cases metadata (kind.key entity) with
      ⟨error, herror, hconfiguration⟩ | ⟨key, hkey, hne, hrequire⟩
    · exact .inl ⟨error, encode_of_refusedKey hresolve herror, hconfiguration⟩
    · -- The fields and the bytes are still to be checked, but no longer the key.
      refine .inr ⟨metadata, key, rfl, hkey, hne, fun encoded hencoded => ?_⟩
      obtain ⟨other, hother, hkeyOther, hcollection⟩ := encode_eq_done hencoded
      obtain rfl : metadata = other := Except.ok.inj (hresolve.symm.trans hother)
      exact ⟨hcollection, (Except.ok.inj (hrequire.symm.trans hkeyOther)).symm⟩

end Kind

end KeyedStore
