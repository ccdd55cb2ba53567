import KeyedStore.Proofs.Storage.Operation
import KeyedStore.Repository.Memory

/-!
# Operations on documents in memory

A backend in memory is known by what is found in its slots and by whether it is open. The steps of
every operation are worked out against it here: what they find, which slot they change, and that a
closed backend refuses them all.

- `ChangesOnly`: one slot has a new occupant and every other slot is as it was;
- `trace_storeSteps`, `trace_loadSteps`, `trace_existsSteps`, `trace_deleteSteps`: the steps of the
  operations on an open backend;
- `trace_steps_closed`: the steps on a closed one.

## References

- SPEC_FULL.md, section 4.3
-/

namespace KeyedStore

namespace Memory

/-- The document in a slot. There is none in a closed backend. -/
def get? (memory : Memory) (slot : Slot) : Option Document :=
  match memory with
  | .opened shelf => shelf.get? slot
  | .closed => none

/-- An open store has a shelf of documents. -/
theorem exists_shelf_of_isOpen {memory : Memory} (h : memory.isOpen = true) :
    ∃ shelf, memory = .opened shelf := by
  cases memory with
  | closed => exact absurd h (by simp [isOpen])
  | opened shelf => exact ⟨shelf, rfl⟩

/-- Only an open backend has a document in a slot. -/
theorem exists_shelf_of_get? {memory : Memory} {slot : Slot} {document : Document}
    (h : memory.get? slot = some document) :
    ∃ shelf, memory = .opened shelf ∧ shelf.get? slot = some document := by
  cases memory with
  | closed => exact absurd h (by simp [get?])
  | opened shelf => exact ⟨shelf, rfl, h⟩

/-- One slot has a new occupant, or none, and every other slot is as it was. -/
def ChangesOnly (slot : Slot) (occupant : Option Document) (before after : Memory) : Prop :=
  after.isOpen = before.isOpen ∧
    ∀ other, after.get? other = if other = slot then occupant else before.get? other

theorem changesOnly_put (shelf : Shelf) (slot : Slot) (document : Document) :
    ChangesOnly slot (some document) (.opened shelf) (.opened (shelf.put slot document)) := by
  refine ⟨rfl, fun other => ?_⟩
  by_cases h : other = slot
  · rw [if_pos h, h]
    exact shelf.get?_put_self slot document
  · rw [if_neg h]
    exact shelf.get?_put_of_ne h document

theorem changesOnly_erase (shelf : Shelf) (slot : Slot) :
    ChangesOnly slot none (.opened shelf) (.opened (shelf.erase slot)) := by
  refine ⟨rfl, fun other => ?_⟩
  by_cases h : other = slot
  · rw [if_pos h, h]
    exact shelf.get?_erase_self slot
  · rw [if_neg h]
    exact shelf.get?_erase_of_ne h

end Memory

namespace Kind

open Memory

variable {α : Type} (kind : Kind α) (options : CodecOptions) {metadata : Metadata}

/-- An entity with a document is put into its slot. -/
theorem trace_storeSteps {entity : α} {encoded : Encoded}
    (h : kind.encode options entity = .done encoded) (shelf : Shelf) :
    (kind.storeSteps entity).trace backend options (.opened shelf) =
      ⟨.done (), .opened (shelf.put ⟨encoded.collection, encoded.key⟩ encoded.document), []⟩ := by
  simp only [storeSteps, Routine.trace_bind, Routine.trace_codec, Routine.trace_ofOutcome, h,
    Routine.trace_upsert]
  rfl

/-- An entity that is refused is not stored. -/
theorem trace_storeSteps_of_failed {entity : α} {error : StoreError}
    (h : kind.encode options entity = .failed error) (memory : Memory) :
    (kind.storeSteps entity).trace backend options memory = ⟨.failed error, memory, []⟩ := by
  simp only [storeSteps, Routine.trace_bind, Routine.trace_codec, Routine.trace_ofOutcome, h]
  rfl

/-- An entity that cuts its encoding short is not stored. -/
theorem trace_storeSteps_of_aborted {entity : α} {cause : Abort}
    (h : kind.encode options entity = .aborted cause) (memory : Memory) :
    (kind.storeSteps entity).trace backend options memory = ⟨.aborted cause, memory, []⟩ := by
  simp only [storeSteps, Routine.trace_bind, Routine.trace_codec, Routine.trace_ofOutcome, h]
  rfl

/-- A closed store takes no entity. -/
theorem trace_storeSteps_closed {entity : α} {encoded : Encoded}
    (h : kind.encode options entity = .done encoded) :
    (kind.storeSteps entity).trace backend options .closed = ⟨.failed .closed, .closed, []⟩ := by
  simp only [storeSteps, Routine.trace_bind, Routine.trace_codec, Routine.trace_ofOutcome, h,
    Routine.trace_upsert]
  rfl

/-- What is found in the slot is decoded. -/
theorem trace_loadSteps (h : kind.declaration.resolve = .ok metadata) (key : String)
    (shelf : Shelf) :
    (kind.loadSteps key).trace backend options (.opened shelf) =
      ⟨match shelf.get? ⟨metadata.collection, key⟩ with
        | none => .done none
        | some document => .ofExcept ((kind.decode options document key).map some),
        .opened shelf, []⟩ := by
  simp only [loadSteps, h, Routine.trace_bind, Routine.trace_ofExcept, Routine.trace_find,
    Outcome.ofExcept, backend, perform, serve]
  cases shelf.get? ⟨metadata.collection, key⟩ with
  | none => rfl
  | some document =>
    simp only [Routine.trace_bind, Routine.trace_codec, Routine.trace_ofExcept]
    cases kind.decode options document key <;> rfl

/-- An entity is there exactly if its slot is taken. -/
theorem trace_existsSteps (h : kind.declaration.resolve = .ok metadata) (key : String)
    (shelf : Shelf) :
    (kind.existsSteps key).trace backend options (.opened shelf) =
      ⟨.done (shelf.get? ⟨metadata.collection, key⟩).isSome, .opened shelf, []⟩ := by
  simp only [existsSteps, h, Routine.trace_bind, Routine.trace_ofExcept, Routine.trace_count,
    Outcome.ofExcept, backend, perform, serve]
  cases (shelf.get? ⟨metadata.collection, key⟩).isSome <;> rfl

/-- The slot is emptied. -/
theorem trace_deleteSteps (h : kind.declaration.resolve = .ok metadata) (key : String)
    (shelf : Shelf) :
    (kind.deleteSteps key).trace backend options (.opened shelf) =
      ⟨.done (), .opened (shelf.erase ⟨metadata.collection, key⟩), []⟩ := by
  simp only [deleteSteps, h, Routine.trace_bind, Routine.trace_ofExcept, Routine.trace_delete]
  rfl

end Kind

/-- A closed backend refuses every operation that asks it at once. -/
theorem Operation.trace_steps_closed (operation : Operation) {metadata : Metadata}
    (hresolve : operation.declaration.resolve = .ok metadata) (h : operation.isStore = false)
    (options : CodecOptions) :
    operation.steps.trace Memory.backend options .closed = ⟨.failed .closed, .closed, []⟩ := by
  cases operation with
  | store _ _ => exact absurd h (by simp [isStore])
  | load kind key | exists? kind key | delete kind key =>
    rw [declaration] at hresolve
    simp only [steps, Kind.loadSteps, Kind.existsSteps, Kind.deleteSteps, hresolve]
    rfl

end KeyedStore
