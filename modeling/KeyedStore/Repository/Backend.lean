import KeyedStore.Log
import KeyedStore.StoreError

/-!
# Backends

What a store of documents can be asked. A document is found by its collection and its identity in
it; the pair of the two is a slot. Each request is one step that no other request can divide.

## References

- SPEC_FULL.md, sections 4.3 and 10.5: the requests of `DocumentRepository`
-/

namespace KeyedStore

/-- The place of one document. -/
@[ext]
structure Slot where
  /-- The collection. -/
  collection : String
  /-- The identity within the collection. -/
  id : String
deriving DecidableEq

/-- What a backend can be asked. -/
inductive Request where
  /-- Put a document into a slot, in place of the one that is there. -/
  | upsert (slot : Slot) (document : Document)
  /-- The document in a slot. -/
  | find (slot : Slot)
  /-- The number of documents in a slot. -/
  | count (slot : Slot)
  /-- Empty a slot. -/
  | delete (slot : Slot)

namespace Request

/-- The type of the answer to a request. -/
def Answer : Request → Type
  | .upsert _ _ => Unit
  | .find _ => Option Document
  | .count _ => Nat
  | .delete _ => Unit

/-- The slot that a request is about. -/
def slot : Request → Slot
  | .upsert slot _ => slot
  | .find slot => slot
  | .count slot => slot
  | .delete slot => slot

end Request

/-- The four kinds of requests. -/
inductive Method where
  /-- Putting a document. -/
  | upsert
  /-- Finding a document. -/
  | find
  /-- Counting documents. -/
  | count
  /-- Deleting a document. -/
  | delete
deriving DecidableEq

/-- The kind of a request. -/
def Request.method : Request → Method
  | .upsert _ _ => .upsert
  | .find _ => .find
  | .count _ => .count
  | .delete _ => .delete

/-- A store of documents with states of type `σ`. -/
structure Backend (σ : Type) where
  /-- Answer a request. -/
  perform : (request : Request) → σ → Except StoreError request.Answer × σ
  /-- Close the store. -/
  teardown : σ → Logged σ

/-- The backend that never answers and cannot be closed. -/
def Backend.unreachable {σ : Type} : Backend σ where
  perform _ state := (.error .refused, state)
  teardown state := ⟨[], state⟩

end KeyedStore
