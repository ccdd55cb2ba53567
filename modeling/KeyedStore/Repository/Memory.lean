import KeyedStore.Repository.Backend

/-!
# Documents in memory

A backend that keeps its documents in the memory of the program. Once it is closed its documents
are gone and it refuses every request.

## References

- SPEC_FULL.md, section 10.5: `InMemoryDocumentRepository` with `upsert`, `find_by_id`, `count`,
  `delete_by_id`, `teardown`
-/

namespace KeyedStore

/-- Documents in their slots: the collections that have been written to, each with its documents. A
collection stays when the last of its documents has gone. -/
structure Shelf where
  /-- The documents of each collection under their identities. -/
  collections : NameMap (NameMap Document)

namespace Shelf

/-- No documents. -/
def empty : Shelf :=
  ⟨.empty⟩

/-- The documents of a collection. There are none in one that has not been written to. -/
def documents (shelf : Shelf) (collection : String) : NameMap Document :=
  (shelf.collections.get? collection).getD .empty

/-- The document in a slot. -/
def get? (shelf : Shelf) (slot : Slot) : Option Document :=
  (shelf.documents slot.collection).get? slot.id

/-- Put a document into a slot. -/
def put (shelf : Shelf) (slot : Slot) (document : Document) : Shelf :=
  ⟨shelf.collections.insert slot.collection
    ((shelf.documents slot.collection).insert slot.id document)⟩

/-- Empty a slot. -/
def erase (shelf : Shelf) (slot : Slot) : Shelf :=
  match shelf.collections.get? slot.collection with
  | none => shelf
  | some documents => ⟨shelf.collections.insert slot.collection (documents.erase slot.id)⟩

/-- The number of documents of a collection. -/
def countIn (shelf : Shelf) (collection : String) : Nat :=
  (shelf.documents collection).size

/-- The documents of a collection after one of its slots has been filled. -/
@[simp]
theorem documents_put_self (shelf : Shelf) (slot : Slot) (document : Document) :
    (shelf.put slot document).documents slot.collection =
      (shelf.documents slot.collection).insert slot.id document := by
  rw [put, documents, NameMap.get?_insert_self, Option.getD_some]

theorem documents_put_of_ne (shelf : Shelf) {slot : Slot} {collection : String}
    (h : collection ≠ slot.collection) (document : Document) :
    (shelf.put slot document).documents collection = shelf.documents collection := by
  rw [put, documents, NameMap.get?_insert_of_ne _ h, documents]

/-- The documents of a collection after one of its slots has been emptied. -/
@[simp]
theorem documents_erase_self (shelf : Shelf) (slot : Slot) :
    (shelf.erase slot).documents slot.collection =
      (shelf.documents slot.collection).erase slot.id := by
  rw [erase]
  cases h : shelf.collections.get? slot.collection with
  | none => rw [documents, h]; rfl
  | some documents => simp [Shelf.documents, h]

theorem documents_erase_of_ne (shelf : Shelf) {slot : Slot} {collection : String}
    (h : collection ≠ slot.collection) :
    (shelf.erase slot).documents collection = shelf.documents collection := by
  rw [erase]
  cases shelf.collections.get? slot.collection with
  | none => rfl
  | some _ => rw [documents, NameMap.get?_insert_of_ne _ h, documents]

/-- The document just put is found. -/
@[simp]
theorem get?_put_self (shelf : Shelf) (slot : Slot) (document : Document) :
    (shelf.put slot document).get? slot = some document := by
  rw [get?, documents_put_self, NameMap.get?_insert_self]

/-- Putting a document leaves every other slot as it was. -/
theorem get?_put_of_ne (shelf : Shelf) {slot other : Slot} (h : other ≠ slot)
    (document : Document) : (shelf.put slot document).get? other = shelf.get? other := by
  rw [get?, get?]
  by_cases hcollection : other.collection = slot.collection
  · have hid : other.id ≠ slot.id := fun hid => h (Slot.ext hcollection hid)
    rw [hcollection, documents_put_self, NameMap.get?_insert_of_ne _ hid]
  · rw [documents_put_of_ne shelf hcollection]

/-- An emptied slot holds nothing. -/
@[simp]
theorem get?_erase_self (shelf : Shelf) (slot : Slot) : (shelf.erase slot).get? slot = none := by
  rw [get?, documents_erase_self, NameMap.get?_erase_self]

/-- Emptying a slot leaves every other slot as it was. -/
theorem get?_erase_of_ne (shelf : Shelf) {slot other : Slot} (h : other ≠ slot) :
    (shelf.erase slot).get? other = shelf.get? other := by
  rw [get?, get?]
  by_cases hcollection : other.collection = slot.collection
  · have hid : other.id ≠ slot.id := fun hid => h (Slot.ext hcollection hid)
    rw [hcollection, documents_erase_self, NameMap.get?_erase_of_ne _ hid]
  · rw [documents_erase_of_ne shelf hcollection]

end Shelf

/-- A backend in memory. -/
inductive Memory where
  /-- Open, with its documents. -/
  | opened (shelf : Shelf)
  /-- Closed for good. -/
  | closed

namespace Memory

/-- The part of the program that writes the entries of the backend. -/
def source : String := "entity_datastore::repositories::memory_repository"

/-- An open backend without documents. -/
def fresh : Memory :=
  .opened .empty

/-- Whether the backend is open. -/
def isOpen : Memory → Bool
  | .opened _ => true
  | .closed => false

/-- The number of documents of a collection. -/
def documentCount (memory : Memory) (collection : String) : Nat :=
  match memory with
  | .opened shelf => shelf.countIn collection
  | .closed => 0

/-- Answer a request to documents in their slots. -/
def serve : (request : Request) → Shelf → request.Answer × Shelf
  | .upsert slot document, shelf => ((), shelf.put slot document)
  | .find slot, shelf => (shelf.get? slot, shelf)
  | .count slot, shelf => (show Nat from if (shelf.get? slot).isSome then 1 else 0, shelf)
  | .delete slot, shelf => ((), shelf.erase slot)

/-- Answer a request, or refuse it if the backend is closed. -/
def perform (request : Request) : Memory → Except StoreError request.Answer × Memory
  | .opened shelf =>
    let (answer, shelf) := serve request shelf
    (.ok answer, .opened shelf)
  | .closed => (.error .closed, .closed)

/-- Drop all documents and close. A second time this does nothing. -/
def teardown : Memory → Logged Memory
  | .opened _ => ⟨[⟨.info, source, "🔌 메모리 저장소 해제"⟩], .closed⟩
  | .closed => ⟨[], .closed⟩

/-- Documents in memory as a backend. -/
def backend : Backend Memory where
  perform := perform
  teardown := teardown

end Memory

/-- A backend in memory behind a switch that makes some kinds of requests fail. -/
structure Switched where
  /-- The backend behind the switch. -/
  memory : Memory
  /-- The kinds of requests that are refused. -/
  down : List Method

namespace Switched

/-- A fresh backend with everything switched on. -/
def fresh : Switched :=
  ⟨.fresh, []⟩

/-- Documents in memory behind a switch, as a backend. -/
def backend : Backend Switched where
  perform request state :=
    -- A refused request changes nothing, not even in the backend behind the switch.
    if request.method ∈ state.down then (.error .refused, state)
    else
      let (answer, memory) := Memory.perform request state.memory
      (answer, ⟨memory, state.down⟩)
  teardown state :=
    let closed := state.memory.teardown
    ⟨closed.entries, ⟨closed.value, state.down⟩⟩

end Switched

end KeyedStore
