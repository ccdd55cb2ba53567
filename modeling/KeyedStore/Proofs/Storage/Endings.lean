import KeyedStore.Proofs.Repository.LookUp
import KeyedStore.Proofs.Storage.Settling

/-!
# How routines end

A service is a few operations, one after the other. To follow it through, it is enough to know of
each operation how it ends, what it leaves behind and what it reports; the lines that it writes to
the log have no part in what comes next.

- `Ends.bind`: a routine that goes on from the value of another one;
- `Ends.run_eq`: what a run comes to;
- `Operation.ends_of_steps`: an operation ends as its steps do, settled;
- `Kind.ends_store`, `Kind.ends_load`, `Kind.ends_delete`: operations on documents in memory.

## References

- SPEC_FULL.md, section 4.4, Failure policy
-/

namespace KeyedStore

namespace Routine

variable {σ α β : Type} {backend : Backend σ} {options : CodecOptions}

/-- From a state of the backend a routine ends in some way, leaves a state behind and has made some
reports. Nothing is said about the log. -/
def Ends (backend : Backend σ) (options : CodecOptions) (routine : Routine α) (state : σ)
    (outcome : Outcome α) (after : σ) (reports : List Report) : Prop :=
  ∃ events, routine.trace backend options state = ⟨outcome, after, events⟩ ∧
    events.filterMap Event.report? = reports

theorem ends_pure (value : α) (state : σ) :
    (pure value : Routine α).Ends backend options state (.done value) state [] :=
  ⟨[], rfl, rfl⟩

theorem ends_abort (cause : Abort) (state : σ) :
    (abort cause : Routine α).Ends backend options state (.aborted cause) state [] :=
  ⟨[], rfl, rfl⟩

variable {first : Routine α} {next : α → Routine β} {start middle after : σ}
  {earlier later : List Report}

/-- A routine goes on from the value of another one, and its reports come behind. -/
theorem Ends.bind {value : α} {outcome : Outcome β}
    (hfirst : first.Ends backend options start (.done value) middle earlier)
    (hnext : (next value).Ends backend options middle outcome after later) :
    (first >>= next).Ends backend options start outcome after (earlier ++ later) := by
  obtain ⟨events, hfirst, rfl⟩ := hfirst
  obtain ⟨others, hnext, rfl⟩ := hnext
  refine ⟨events ++ others, ?_, List.filterMap_append⟩
  simp only [trace_bind, hfirst, hnext, Trace.after]

/-- A failure is the end of whatever would come next. -/
theorem Ends.bind_failed {error : StoreError}
    (hfirst : first.Ends backend options start (.failed error) middle earlier) :
    (first >>= next).Ends backend options start (.failed error) middle earlier := by
  obtain ⟨events, hfirst, rfl⟩ := hfirst
  refine ⟨events, ?_, rfl⟩
  simp only [trace_bind, hfirst]

/-- So is the end of a routine that is cut short. -/
theorem Ends.bind_aborted {cause : Abort}
    (hfirst : first.Ends backend options start (.aborted cause) middle earlier) :
    (first >>= next).Ends backend options start (.aborted cause) middle earlier := by
  obtain ⟨events, hfirst, rfl⟩ := hfirst
  refine ⟨events, ?_, rfl⟩
  simp only [trace_bind, hfirst]

/-- What a run comes to. -/
theorem Ends.run_eq {routine : Routine α} {service : Service σ} {outcome : Outcome α}
    {reports : List Report}
    (h : routine.Ends backend service.options service.state outcome after reports) :
    (routine.run backend service).1 = outcome ∧ (routine.run backend service).2.state = after ∧
      routine.reports backend service = reports := by
  obtain ⟨events, htrace, hreports⟩ := h
  rw [reports_eq, run_eq_trace, htrace]
  exact ⟨rfl, Service.noteAll_state _ _, hreports⟩

end Routine

/-- An operation ends as its steps do, settled. -/
theorem Operation.ends_of_steps {σ : Type} {backend : Backend σ} {options : CodecOptions}
    (operation : Operation) {state : σ} {steps : Trace σ operation.Answer}
    (h : operation.steps.trace backend options state = steps) :
    operation.routine.Ends backend options state (operation.settled steps.outcome) steps.state
      (operation.reported steps.outcome) := by
  obtain ⟨entries, htrace⟩ := exists_trace_routine backend options state operation
  rw [h] at htrace
  exact ⟨_, htrace, reports_settledTrace operation steps entries⟩

/-- An operation leaves the backend as its steps do. -/
theorem Operation.state_trace_routine {σ : Type} (backend : Backend σ) (options : CodecOptions)
    (operation : Operation) (state : σ) :
    (operation.routine.trace backend options state).state =
      (operation.steps.trace backend options state).state := by
  obtain ⟨entries, htrace⟩ := exists_trace_routine backend options state operation
  rw [htrace, settledTrace]

namespace Kind

open Memory

variable {α : Type} {kind : Kind α} {options : CodecOptions} {memory : Memory}
  {metadata : Metadata}

/-- On an open backend an entity with a document is put into its slot. -/
theorem ends_store {entity : α} {encoded : Encoded} (hopen : memory.isOpen = true)
    (hencode : kind.encode options entity = .done encoded) :
    ∃ after, (kind.store entity).Ends backend options memory (.done ()) after [] ∧
      ChangesOnly ⟨encoded.collection, encoded.key⟩ (some encoded.document) memory after := by
  obtain ⟨shelf, rfl⟩ := exists_shelf_of_isOpen hopen
  exact ⟨_, Operation.ends_of_steps (.store kind entity)
    (kind.trace_storeSteps options hencode shelf), changesOnly_put shelf _ _⟩

/-- An entity that is refused as misconfigured is not stored. -/
theorem ends_store_of_failed {entity : α} {error : StoreError}
    (hencode : kind.encode options entity = .failed error) (herror : error.isConfiguration = true) :
    (kind.store entity).Ends backend options memory (.failed error) memory [] := by
  have hends := Operation.ends_of_steps (.store kind entity)
    (kind.trace_storeSteps_of_failed options hencode memory)
  simp only [Operation.settled, Operation.reported, if_pos herror] at hends
  exact hends

/-- Nothing is loaded from an empty slot. -/
theorem ends_load_of_vacant (hresolve : kind.declaration.resolve = .ok metadata) {key : String}
    (hopen : memory.isOpen = true) (hget : memory.get? ⟨metadata.collection, key⟩ = none) :
    (kind.load key).Ends backend options memory (.done none) memory [] := by
  obtain ⟨shelf, rfl⟩ := exists_shelf_of_isOpen hopen
  change shelf.get? _ = none at hget
  have htrace := kind.trace_loadSteps options hresolve key shelf
  rw [hget] at htrace
  exact Operation.ends_of_steps (.load kind key) htrace

/-- The entity of the document in a slot is loaded. -/
theorem ends_load (hresolve : kind.declaration.resolve = .ok metadata) {key : String}
    {document : Document} {entity : α}
    (hget : memory.get? ⟨metadata.collection, key⟩ = some document)
    (hdecode : kind.decode options document key = .ok entity) :
    (kind.load key).Ends backend options memory (.done (some entity)) memory [] := by
  obtain ⟨shelf, rfl, hshelf⟩ := exists_shelf_of_get? hget
  have htrace := kind.trace_loadSteps options hresolve key shelf
  simp only [hshelf, hdecode] at htrace
  exact Operation.ends_of_steps (.load kind key) htrace

/-- A document that cannot be decoded is reported, and nothing is loaded. -/
theorem ends_load_of_undecodable (hresolve : kind.declaration.resolve = .ok metadata) {key : String}
    {document : Document} {error : StoreError}
    (hget : memory.get? ⟨metadata.collection, key⟩ = some document)
    (hdecode : kind.decode options document key = .error error)
    (herror : error.isConfiguration = false) :
    ∃ reports, (kind.load key).Ends backend options memory (.done none) memory reports := by
  obtain ⟨shelf, rfl, hshelf⟩ := exists_shelf_of_get? hget
  have htrace := kind.trace_loadSteps options hresolve key shelf
  simp only [hshelf, hdecode] at htrace
  have hends := Operation.ends_of_steps (.load kind key) htrace
  have hnot : ¬ error.isConfiguration = true := by simp [herror]
  simp only [Except.map, Outcome.ofExcept, Operation.settled, if_neg hnot] at hends
  exact ⟨_, hends⟩

/-- On an open backend a slot is emptied. -/
theorem ends_delete (hresolve : kind.declaration.resolve = .ok metadata)
    (hopen : memory.isOpen = true) (key : String) :
    ∃ after, (kind.delete key).Ends backend options memory (.done ()) after [] ∧
      ChangesOnly ⟨metadata.collection, key⟩ none memory after := by
  obtain ⟨shelf, rfl⟩ := exists_shelf_of_isOpen hopen
  exact ⟨_, Operation.ends_of_steps (.delete kind key)
    (kind.trace_deleteSteps options hresolve key shelf), changesOnly_erase shelf _⟩

end Kind

end KeyedStore
