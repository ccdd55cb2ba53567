import KeyedStore.Proofs.Storage.Calls
import KeyedStore.Proofs.Storage.Endings

/-!
# The frame of the documents in memory

What operations find in memory, and what all calls of a run together keep: a slot changes only by a
successful store into it or a successful deletion of it, and what is found is what its slot holds.

- `Kind.run_exists?`, `Kind.run_load`: an open backend is asked;
- `Kind.run_of_vacant`: nothing is found in an empty slot, on an open backend or a closed one;
- `afterAll_framed`: the laws of the documents, at every point of every run.

## References

- SPEC_FULL.md, section 4.3; section 8, Delete-then-load
-/

namespace KeyedStore

open Memory

namespace Kind

variable {α : Type} {kind : Kind α} {metadata : Metadata} {service : Service Memory}

/-- On an open backend there is an entity exactly if its slot is taken. -/
theorem run_exists? (hresolve : kind.declaration.resolve = .ok metadata)
    (hopen : service.state.isOpen = true) (key : String) :
    ((kind.exists? key).run backend service).1 =
      .done (service.state.get? ⟨metadata.collection, key⟩).isSome := by
  obtain ⟨shelf, hstate⟩ := exists_shelf_of_isOpen hopen
  have htrace := kind.trace_existsSteps service.options hresolve key shelf
  rw [hstate]
  exact (Operation.run_of_trace_steps backend (.exists? kind key) hstate htrace).1

/-- On an open backend the document in a slot is loaded, without a report, if it can be decoded. -/
theorem run_load {key : String} {document : Document} {entity : α}
    (hresolve : kind.declaration.resolve = .ok metadata)
    (hget : service.state.get? ⟨metadata.collection, key⟩ = some document)
    (hdecode : kind.decode service.options document key = .ok entity) :
    ((kind.load key).run backend service).1 = .done (some entity) ∧
      (kind.load key).reports backend service = [] := by
  obtain ⟨houtcome, -, hreports⟩ := (ends_load hresolve hget hdecode).run_eq
  exact ⟨houtcome, hreports⟩

/-- A document that cannot be decoded is reported, and nothing is loaded. -/
theorem run_load_of_undecodable {key : String} {document : Document} {error : StoreError}
    (hresolve : kind.declaration.resolve = .ok metadata)
    (hget : service.state.get? ⟨metadata.collection, key⟩ = some document)
    (hdecode : kind.decode service.options document key = .error error)
    (herror : error.isConfiguration = false) :
    ((kind.load key).run backend service).1 = .done none ∧
      (kind.load key).reports backend service =
        [⟨(Operation.load kind key).name, metadata.collection, key, metadata.typeName, error⟩] := by
  obtain ⟨shelf, hstate, hshelf⟩ := exists_shelf_of_get? hget
  have htrace := kind.trace_loadSteps service.options hresolve key shelf
  simp only [hshelf, hdecode] at htrace
  obtain ⟨houtcome, hreports, -⟩ :=
    Operation.run_of_trace_steps backend (.load kind key) hstate htrace
  -- The error is settled, because it is no configuration error.
  have hsettled : (Operation.load kind key).settled (.failed error) = .done none := by
    rw [Operation.settled, if_neg (by simp [herror])]
    rfl
  have hreported : (Operation.load kind key).reported (.failed error) =
      [⟨(Operation.load kind key).name, metadata.collection, key, metadata.typeName, error⟩] := by
    rw [Operation.reported, if_neg (by simp [herror]), Declaration.eq_of_resolve hresolve]
    rfl
  exact ⟨houtcome.trans hsettled, hreports.trans hreported⟩

/-- On an open backend an entity with a document is stored, without a report. -/
theorem run_store (entity : α) {encoded : Encoded} (hopen : service.state.isOpen = true)
    (hencode : kind.encode service.options entity = .done encoded) :
    ((kind.store entity).run backend service).1 = .done () ∧
      (kind.store entity).reports backend service = [] ∧
      ((kind.store entity).run backend service).2.state.get? ⟨encoded.collection, encoded.key⟩ =
        some encoded.document := by
  obtain ⟨after, hends, -, hget⟩ := ends_store hopen hencode
  obtain ⟨houtcome, hstate, hreports⟩ := hends.run_eq
  refine ⟨houtcome, hreports, ?_⟩
  rw [hstate, hget, if_pos rfl]

/-- Nothing is found in an empty slot, be the backend open or closed. -/
theorem run_of_vacant {key : String} (hresolve : kind.declaration.resolve = .ok metadata)
    (hget : service.state.get? ⟨metadata.collection, key⟩ = none) :
    ((kind.exists? key).run backend service).1 = .done false ∧
      ((kind.load key).run backend service).1 = .done none := by
  cases hstate : service.state with
  | closed =>
    -- A closed store refuses the request, which is settled in the same way.
    have hexists := Operation.run_of_trace_steps backend (.exists? kind key) hstate
      (Operation.trace_steps_closed (.exists? kind key) hresolve rfl service.options)
    have hload := Operation.run_of_trace_steps backend (.load kind key) hstate
      (Operation.trace_steps_closed (.load kind key) hresolve rfl service.options)
    exact ⟨hexists.1, hload.1⟩
  | opened shelf =>
    have hshelf : shelf.get? ⟨metadata.collection, key⟩ = none := by
      rw [hstate] at hget
      exact hget
    have hexists := kind.trace_existsSteps service.options hresolve key shelf
    have hload := kind.trace_loadSteps service.options hresolve key shelf
    simp only [hshelf] at hexists hload
    exact ⟨(Operation.run_of_trace_steps backend (.exists? kind key) hstate hexists).1,
      (Operation.run_of_trace_steps backend (.load kind key) hstate hload).1⟩

/-- What is loaded is there. -/
theorem run_exists?_of_run_load {key : String} {entity : α}
    (h : ((kind.load key).run backend service).1 = .done (some entity)) :
    ((kind.exists? key).run backend service).1 = .done true := by
  obtain ⟨metadata, hresolve⟩ := Operation.exists_resolve_of_run backend (.load kind key) h
  change kind.declaration.resolve = .ok metadata at hresolve
  cases hget : service.state.get? ⟨metadata.collection, key⟩ with
  | none =>
    -- Nothing would have been loaded.
    rw [(run_of_vacant hresolve hget).2] at h
    exact absurd h (by simp)
  | some document =>
    obtain ⟨shelf, hstate, -⟩ := exists_shelf_of_get? hget
    rw [run_exists? hresolve (by rw [hstate, isOpen]), hget]
    rfl

/-- A deletion leaves its slot empty, be the backend open or closed. -/
theorem get?_of_run_delete (hresolve : kind.declaration.resolve = .ok metadata) (key : String)
    (service : Service Memory) :
    ((kind.delete key).run backend service).2.state.get? ⟨metadata.collection, key⟩ = none := by
  cases hstate : service.state with
  | closed =>
    -- A closed store has no documents, so there is none to be left.
    have hafter := (Operation.run_of_trace_steps backend (.delete kind key) hstate
      (Operation.trace_steps_closed (.delete kind key) hresolve rfl service.options)).2.2
    exact congrArg (fun memory => memory.get? ⟨metadata.collection, key⟩) hafter
  | opened shelf =>
    have htrace := kind.trace_deleteSteps service.options hresolve key shelf
    have hafter := (Operation.run_of_trace_steps backend (.delete kind key) hstate htrace).2.2
    refine (congrArg (fun memory => memory.get? ⟨metadata.collection, key⟩) hafter).trans ?_
    exact shelf.get?_erase_self _

/-- A deletion on an open backend succeeds. -/
theorem succeeds_delete (hresolve : kind.declaration.resolve = .ok metadata)
    (hopen : service.state.isOpen = true) (key : String) :
    (Operation.delete kind key).Succeeds service := by
  obtain ⟨after, hends, -⟩ := ends_delete hresolve hopen key
  obtain ⟨houtcome, -, hreports⟩ := hends.run_eq
  exact ⟨⟨(), houtcome⟩, hreports⟩

end Kind

/-- The laws of the documents in memory at one point of a run. -/
structure Service.Framed (service : Service Memory) : Prop where
  /-- An operation that fails, is cut short or is reported leaves the backend exactly as it was. -/
  unsuccessful : ∀ operation : Operation, ¬ operation.Succeeds service →
    (operation.routine.run backend service).2.state = service.state
  /-- A load or a look for an entity leaves the backend exactly as it was. -/
  reads : ∀ operation : Operation, operation.reads = true →
    (operation.routine.run backend service).2.state = service.state
  /-- So does a change of the options. -/
  resetCodec : ∀ options, (service.resetCodec options).state = service.state
  /-- A successful store changes exactly the slot of its entity, to the document of the entity. -/
  stores : ∀ {α : Type} (kind : Kind α) (entity : α),
    (Operation.store kind entity).Succeeds service →
    ∃ key document, kind.key entity = some key ∧
      kind.encode service.options entity = .done ⟨kind.declaration.collection, key, document⟩ ∧
      ChangesOnly ⟨kind.declaration.collection, key⟩ (some document) service.state
        ((kind.store entity).run backend service).2.state
  /-- A deletion on an open backend succeeds and empties exactly its slot. -/
  deletes : ∀ {α : Type} (kind : Kind α) (key : String) (metadata : Metadata),
    service.state.isOpen = true → kind.declaration.resolve = .ok metadata →
    (Operation.delete kind key).Succeeds service ∧
      ChangesOnly ⟨metadata.collection, key⟩ none service.state
        ((kind.delete key).run backend service).2.state
  /-- On an open backend there is an entity exactly if its slot is taken. -/
  finds : ∀ {α : Type} (kind : Kind α) (key : String) (metadata : Metadata),
    service.state.isOpen = true → kind.declaration.resolve = .ok metadata →
    ((kind.exists? key).run backend service).1 =
      .done (service.state.get? ⟨metadata.collection, key⟩).isSome
  /-- What is loaded is there. -/
  loads : ∀ {α : Type} (kind : Kind α) (key : String) (entity : α),
    ((kind.load key).run backend service).1 = .done (some entity) →
    ((kind.exists? key).run backend service).1 = .done true
  /-- Nothing is found after a deletion, until an entity is stored into the slot. -/
  deleted : ∀ {α : Type} (kind : Kind α) (key : String) (calls : List Call),
    ((kind.delete key).run backend service).1 = .done () →
    ((kind.delete key).run backend service).2.Throughout backend
      (fun now call => ¬ call.StoresInto ⟨kind.declaration.collection, key⟩ now) calls →
    let later := ((kind.delete key).run backend service).2.afterAll backend calls
    ((kind.exists? key).run backend later).1 = .done false ∧
      ((kind.load key).run backend later).1 = .done none

/-- The laws of the documents hold at every point of every run. -/
theorem Service.afterAll_framed (start : Service Memory) (past : List Call) :
    (start.afterAll backend past).Framed where
  unsuccessful operation h := Operation.state_eq_of_not_succeeds h
  reads operation h := Operation.state_eq_of_reads h _
  resetCodec options := rfl
  stores kind entity h := by
    obtain ⟨slot, document, hslot, hencode, hchanges⟩ := Operation.changesOnly_of_store h
    obtain ⟨key, hkey, rfl⟩ := Option.map_eq_some_iff.mp hslot
    exact ⟨key, document, hkey, hencode, hchanges⟩
  deletes kind key metadata hopen hresolve := by
    have hsucceeds := Kind.succeeds_delete hresolve hopen key
    have hchanges := Operation.changesOnly_of_delete hsucceeds
    rw [Declaration.eq_of_resolve hresolve]
    exact ⟨hsucceeds, hchanges⟩
  finds kind key metadata hopen hresolve := Kind.run_exists? hresolve hopen key
  loads kind key entity h := Kind.run_exists?_of_run_load h
  deleted kind key calls h hcalls := by
    -- Calls that put nothing into the slot leave it as empty as the deletion.
    obtain ⟨metadata, hresolve⟩ := Operation.exists_resolve_of_run backend (.delete kind key) h
    change kind.declaration.resolve = .ok metadata at hresolve
    have hempty := Kind.get?_of_run_delete hresolve key (start.afterAll backend past)
    have hcollection : kind.declaration.collection = metadata.collection := by
      rw [Declaration.eq_of_resolve hresolve]
    rw [hcollection] at hcalls
    exact Kind.run_of_vacant hresolve (Service.get?_afterAll_eq_none calls hempty hcalls)

end KeyedStore
