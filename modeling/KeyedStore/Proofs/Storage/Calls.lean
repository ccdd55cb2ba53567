import KeyedStore.Proofs.Repository.LookUp
import KeyedStore.Proofs.Storage.Settling

/-!
# Runs of calls

A caller of the store carries out operations, changes the options of the codec and closes the
backend, in any order. In memory each call changes at most one slot, and a call that does not
succeed changes nothing.

- `Succeeds`: an operation ends with a value and reports nothing;
- `state_eq_of_not_succeeds`, `changesOnly_of_store`, `changesOnly_of_delete`: what one operation
  does to the documents;
- `get?_afterAll`: a slot that no call of a run alters holds what it held.

## References

- SPEC_FULL.md, section 4.4
-/

namespace KeyedStore

namespace Operation

/-- Whether an operation only looks. -/
def reads : Operation → Bool
  | .load _ _ | .exists? _ _ => true
  | .store _ _ | .delete _ _ => false

/-- The slot that an operation is about, if it has a key. -/
def slot? (operation : Operation) : Option Slot :=
  operation.key?.map fun key => ⟨operation.declaration.collection, key⟩

/-- An operation on documents in memory ends with a value and reports nothing. -/
def Succeeds (operation : Operation) (service : Service Memory) : Prop :=
  (∃ answer, (operation.routine.run Memory.backend service).1 = .done answer) ∧
    operation.routine.reports Memory.backend service = []

/-- An operation stores into a slot or empties it. -/
def Alters (operation : Operation) (slot : Slot) (service : Service Memory) : Prop :=
  operation.reads = false ∧ operation.slot? = some slot ∧ operation.Succeeds service

end Operation

/-- Something that a caller asks of the store. -/
inductive Call : Type 1 where
  /-- Carry out an operation. -/
  | operate (operation : Operation)
  /-- Change the options of the codec. -/
  | resetCodec (options : CodecOptions)
  /-- Close the backend. -/
  | teardown

/-- The store after a call. -/
def Call.after {σ : Type} (backend : Backend σ) (service : Service σ) : Call → Service σ
  | .operate operation => (operation.routine.run backend service).2
  | .resetCodec options => service.resetCodec options
  | .teardown => service.teardown backend

/-- The store after several calls. -/
def Service.afterAll {σ : Type} (backend : Backend σ) (service : Service σ) (calls : List Call) :
    Service σ :=
  calls.foldl (Call.after backend) service

/-- Something holds of every call of a run and of the store at the time of the call. -/
def Service.Throughout {σ : Type} (backend : Backend σ) (property : Service σ → Call → Prop)
    (service : Service σ) : List Call → Prop
  | [] => True
  | call :: calls =>
    property service call ∧ (call.after backend service).Throughout backend property calls

/-- A call leaves a slot to what it holds: it neither stores into the slot nor empties it, and it
does not close the backend. -/
def Call.Spares (slot : Slot) (service : Service Memory) : Call → Prop
  | .operate operation => ¬ operation.Alters slot service
  | .resetCodec _ => True
  | .teardown => False

/-- A call stores an entity into a slot. -/
def Call.StoresInto (slot : Slot) (service : Service Memory) : Call → Prop
  | .operate operation => operation.isStore = true ∧ operation.Alters slot service
  | .resetCodec _ | .teardown => False

namespace Operation

open Memory

/-! ## What a single operation does -/

/-- What is done to the documents by an operation whose steps end with a value. -/
def Effect (options : CodecOptions) (shelf : Shelf) (after : Memory) : Operation → Prop
  | .store kind entity => ∃ encoded, kind.encode options entity = .done encoded ∧
      after = .opened (shelf.put ⟨encoded.collection, encoded.key⟩ encoded.document)
  | .delete kind key => ∃ metadata, kind.declaration.resolve = .ok metadata ∧
      after = .opened (shelf.erase ⟨metadata.collection, key⟩)
  | .load _ _ | .exists? _ _ => after = .opened shelf

/-- The steps of an operation end without a value and leave the documents alone. -/
def Refused (options : CodecOptions) (memory : Memory) (operation : Operation) : Prop :=
  (∀ answer, (operation.steps.trace backend options memory).outcome ≠ .done answer) ∧
    (operation.steps.trace backend options memory).state = memory

/-- The steps of an operation end with a value, on an open backend, and do their work. -/
def Done (options : CodecOptions) (memory : Memory) (operation : Operation) : Prop :=
  ∃ shelf answer, memory = .opened shelf ∧
    (operation.steps.trace backend options memory).outcome = .done answer ∧
    operation.Effect options shelf (operation.steps.trace backend options memory).state

section Cases

variable {operation : Operation} {options : CodecOptions} {memory : Memory}

/-- An operation whose steps fail at once is refused. -/
theorem refused_of_failed {error : StoreError}
    (h : operation.steps.trace backend options memory = ⟨.failed error, memory, []⟩) :
    operation.Refused options memory := by
  rw [Refused, h]
  exact ⟨fun answer => by simp, rfl⟩

/-- An operation whose steps are cut short at once is refused. -/
theorem refused_of_aborted {cause : Abort}
    (h : operation.steps.trace backend options memory = ⟨.aborted cause, memory, []⟩) :
    operation.Refused options memory := by
  rw [Refused, h]
  exact ⟨fun answer => by simp, rfl⟩

/-- An operation whose steps answer on an open backend is done. -/
theorem done_of_trace {shelf : Shelf} {answer : operation.Answer} {after : Memory}
    (h : operation.steps.trace backend options (.opened shelf) = ⟨.done answer, after, []⟩)
    (heffect : operation.Effect options shelf after) :
    operation.Done options (.opened shelf) := by
  refine ⟨shelf, answer, rfl, ?_, ?_⟩
  · rw [h]
  · rw [h]
    exact heffect

end Cases

/-- Nothing else becomes of an operation: it is refused or it does its work. -/
theorem refused_or_done (operation : Operation) (options : CodecOptions) (memory : Memory) :
    operation.Refused options memory ∨ operation.Done options memory := by
  cases hresolve : operation.declaration.resolve with
  | error error => exact .inl (refused_of_failed (trace_steps_of_unresolved hresolve))
  | ok metadata =>
    cases operation with
    | store kind entity =>
      -- The codec has its say before the backend is asked.
      cases hencode : kind.encode options entity with
      | failed error =>
        exact .inl (refused_of_failed (kind.trace_storeSteps_of_failed options hencode memory))
      | aborted cause =>
        exact .inl (refused_of_aborted (kind.trace_storeSteps_of_aborted options hencode memory))
      | done encoded =>
        cases memory with
        | closed => exact .inl (refused_of_failed (kind.trace_storeSteps_closed options hencode))
        | opened shelf =>
          exact .inr (done_of_trace (kind.trace_storeSteps options hencode shelf)
            ⟨encoded, hencode, rfl⟩)
    | load kind key =>
      cases memory with
      | closed => exact .inl (refused_of_failed (trace_steps_closed _ hresolve rfl options))
      | opened shelf =>
        have htrace := kind.trace_loadSteps options hresolve key shelf
        cases hfound : shelf.get? ⟨metadata.collection, key⟩ with
        | none =>
          rw [hfound] at htrace
          exact .inr (done_of_trace htrace rfl)
        | some document =>
          rw [hfound] at htrace
          cases hdecode : kind.decode options document key with
          | error error =>
            simp only [hdecode] at htrace
            exact .inl (refused_of_failed htrace)
          | ok entity =>
            simp only [hdecode] at htrace
            exact .inr (done_of_trace htrace rfl)
    | exists? kind key =>
      cases memory with
      | closed =>
        exact .inl (refused_of_failed (trace_steps_closed _ hresolve rfl options))
      | opened shelf =>
        exact .inr (done_of_trace (kind.trace_existsSteps options hresolve key shelf) rfl)
    | delete kind key =>
      cases memory with
      | closed =>
        exact .inl (refused_of_failed (trace_steps_closed _ hresolve rfl options))
      | opened shelf =>
        exact .inr (done_of_trace (kind.trace_deleteSteps options hresolve key shelf)
          ⟨metadata, hresolve, rfl⟩)

/-- An operation succeeds exactly if it does its work. -/
theorem succeeds_iff_done (operation : Operation) (service : Service Memory) :
    operation.Succeeds service ↔ operation.Done service.options service.state := by
  unfold Succeeds
  rw [run_eq_settled, reports_eq_reported, Routine.run_eq_trace]
  rcases operation.refused_or_done service.options service.state with hrefused | hdone
  · obtain ⟨houtcome, -⟩ := hrefused
    refine ⟨fun hsucceeds => ?_, fun ⟨_, answer, _, hanswer, _⟩ => absurd hanswer (houtcome answer)⟩
    cases hsteps : (operation.steps.trace backend service.options service.state).outcome with
    | done answer => exact absurd hsteps (houtcome answer)
    | aborted cause => simp [hsteps, settled] at hsucceeds
    | failed error =>
      cases hkind : error.isConfiguration <;>
        simp [hsteps, hkind, settled, reported] at hsucceeds
  · refine ⟨fun _ => hdone, fun _ => ?_⟩
    obtain ⟨shelf, answer, hstate, houtcome, heffect⟩ := hdone
    simp only [houtcome]
    exact ⟨⟨answer, rfl⟩, rfl⟩

/-- An operation leaves the backend as its steps leave it. -/
theorem run_state_eq_trace (operation : Operation) (service : Service Memory) :
    (operation.routine.run backend service).2.state =
      (operation.steps.trace backend service.options service.state).state := by
  rw [run_state_eq, Routine.run_eq_trace]
  exact Service.noteAll_state _ _

/-- An operation that does not succeed leaves the backend exactly as it was. -/
theorem state_eq_of_not_succeeds {operation : Operation} {service : Service Memory}
    (h : ¬ operation.Succeeds service) :
    (operation.routine.run backend service).2.state = service.state := by
  rw [run_state_eq_trace]
  rcases operation.refused_or_done service.options service.state with hrefused | hdone
  · exact hrefused.2
  · exact absurd ((succeeds_iff_done operation service).mpr hdone) h

/-- An operation that succeeds does so on an open backend and does its work. -/
theorem effect_of_succeeds {operation : Operation} {service : Service Memory}
    (h : operation.Succeeds service) :
    ∃ shelf, service.state = .opened shelf ∧
      operation.Effect service.options shelf (operation.routine.run backend service).2.state := by
  obtain ⟨shelf, answer, hstate, -, heffect⟩ := (succeeds_iff_done operation service).mp h
  rw [run_state_eq_trace]
  exact ⟨shelf, hstate, heffect⟩

/-- An operation that only looks leaves the backend exactly as it was. -/
theorem state_eq_of_reads {operation : Operation} (h : operation.reads = true)
    (service : Service Memory) :
    (operation.routine.run backend service).2.state = service.state := by
  by_cases hsucceeds : operation.Succeeds service
  · obtain ⟨shelf, hstate, heffect⟩ := effect_of_succeeds hsucceeds
    rw [hstate]
    cases operation with
    | load _ _ | exists? _ _ => exact heffect
    | store _ _ | delete _ _ => exact absurd h (by simp [reads])
  · exact state_eq_of_not_succeeds hsucceeds

/-- A successful store changes exactly the slot of its entity, to the document of the entity. -/
theorem changesOnly_of_store {α : Type} {kind : Kind α} {entity : α} {service : Service Memory}
    (h : (store kind entity).Succeeds service) :
    ∃ slot document, (store kind entity).slot? = some slot ∧
      kind.encode service.options entity = .done ⟨slot.collection, slot.id, document⟩ ∧
      ChangesOnly slot (some document) service.state
        ((store kind entity).routine.run backend service).2.state := by
  obtain ⟨shelf, hstate, ⟨collection, key, document⟩, hencode, hafter⟩ := effect_of_succeeds h
  refine ⟨⟨collection, key⟩, document, ?_, hencode, ?_⟩
  · rcases kind.encode_cases service.options entity with
      ⟨error, hfailed, -⟩ | ⟨metadata, other, hresolve, hkey, -, hencoded⟩
    · rw [hfailed] at hencode
      exact absurd hencode (by simp)
    · obtain ⟨hcollection, hother⟩ := hencoded _ hencode
      simp only at hcollection hother
      rw [slot?, key?, hkey, hcollection, hother, Declaration.eq_of_resolve hresolve]
      rfl
  · rw [hstate, hafter]
    exact changesOnly_put shelf _ document

/-- A successful deletion empties exactly its slot. -/
theorem changesOnly_of_delete {α : Type} {kind : Kind α} {key : String}
    {service : Service Memory} (h : (delete kind key).Succeeds service) :
    ChangesOnly ⟨kind.declaration.collection, key⟩ none service.state
      ((delete kind key).routine.run backend service).2.state := by
  obtain ⟨shelf, hstate, metadata, hresolve, hafter⟩ := effect_of_succeeds h
  rw [hstate, hafter, Declaration.eq_of_resolve hresolve]
  exact changesOnly_erase shelf _

/-- A slot that an operation does not alter holds what it held. -/
theorem get?_of_not_alters {operation : Operation} {slot : Slot} {service : Service Memory}
    (h : ¬ operation.Alters slot service) :
    (operation.routine.run backend service).2.state.get? slot = service.state.get? slot := by
  by_cases hsucceeds : operation.Succeeds service
  · cases operation with
    | load _ _ | exists? _ _ => rw [state_eq_of_reads rfl]
    | store kind entity =>
      obtain ⟨other, document, hslot, -, -, hget⟩ := changesOnly_of_store hsucceeds
      rw [hget, if_neg]
      rintro rfl
      exact h ⟨rfl, hslot, hsucceeds⟩
    | delete kind key =>
      rw [(changesOnly_of_delete hsucceeds).2, if_neg]
      -- A deletion that succeeds alters its own slot, so this one is another.
      rintro rfl
      exact h ⟨rfl, rfl, hsucceeds⟩
  · rw [state_eq_of_not_succeeds hsucceeds]

/-- No operation opens or closes the backend. -/
theorem isOpen_run (operation : Operation) (service : Service Memory) :
    (operation.routine.run backend service).2.state.isOpen = service.state.isOpen := by
  by_cases hsucceeds : operation.Succeeds service
  · cases operation with
    | load _ _ | exists? _ _ => rw [state_eq_of_reads rfl]
    | store kind entity =>
      obtain ⟨-, -, -, -, hopen, -⟩ := changesOnly_of_store hsucceeds
      exact hopen
    | delete kind key => exact (changesOnly_of_delete hsucceeds).1
  · rw [state_eq_of_not_succeeds hsucceeds]

end Operation

/-! ## What a run does -/

open Memory

/-- A call that spares a slot leaves it as it was, and the backend open if it was. -/
theorem Call.get?_after_of_spares {call : Call} {slot : Slot} {service : Service Memory}
    (h : call.Spares slot service) :
    (call.after backend service).state.get? slot = service.state.get? slot ∧
      (call.after backend service).state.isOpen = service.state.isOpen := by
  cases call with
  | operate operation => exact ⟨Operation.get?_of_not_alters h, operation.isOpen_run service⟩
  | resetCodec options => exact ⟨rfl, rfl⟩
  | teardown => exact absurd h (by simp [Spares])

/-- A slot that every call of a run spares holds in the end what it held in the beginning, and the
backend is open if it was. -/
theorem Service.get?_afterAll_of_spares {slot : Slot} (calls : List Call)
    {service : Service Memory}
    (h : service.Throughout backend (fun now call => call.Spares slot now) calls) :
    (service.afterAll backend calls).state.get? slot = service.state.get? slot ∧
      (service.afterAll backend calls).state.isOpen = service.state.isOpen := by
  induction calls generalizing service with
  | nil => exact ⟨rfl, rfl⟩
  | cons call calls ih =>
    obtain ⟨hspares, hrest⟩ := h
    obtain ⟨hget, hopen⟩ := Call.get?_after_of_spares hspares
    obtain ⟨hgetRest, hopenRest⟩ := ih hrest
    exact ⟨hgetRest.trans hget, hopenRest.trans hopen⟩

/-- A call that stores nothing into an empty slot leaves it empty. -/
theorem Call.get?_after_eq_none {call : Call} {slot : Slot} {service : Service Memory}
    (hnone : service.state.get? slot = none) (h : ¬ call.StoresInto slot service) :
    (call.after backend service).state.get? slot = none := by
  cases call with
  | resetCodec options => exact hnone
  | teardown =>
    -- Nothing is found in a closed backend.
    have hclosed : service.state.teardown.value = .closed := by
      cases service.state <;> rfl
    change service.state.teardown.value.get? slot = none
    rw [hclosed]
    rfl
  | operate operation =>
    by_cases halters : operation.Alters slot service
    · obtain ⟨hreads, hslot, hsucceeds⟩ := halters
      cases operation with
      | load _ _ | exists? _ _ => exact absurd hreads (by simp [Operation.reads])
      | store kind entity => exact absurd ⟨rfl, hreads, hslot, hsucceeds⟩ h
      | delete kind key =>
        have hsame : slot = ⟨kind.declaration.collection, key⟩ := (Option.some.inj hslot).symm
        rw [after, (Operation.changesOnly_of_delete hsucceeds).2, if_pos hsame]
    · rw [after, Operation.get?_of_not_alters halters, hnone]

/-- An empty slot stays empty until an entity is stored into it. -/
theorem Service.get?_afterAll_eq_none {slot : Slot} (calls : List Call) {service : Service Memory}
    (hnone : service.state.get? slot = none)
    (h : service.Throughout backend (fun now call => ¬ call.StoresInto slot now) calls) :
    (service.afterAll backend calls).state.get? slot = none := by
  induction calls generalizing service with
  | nil => exact hnone
  | cons call calls ih => exact ih (Call.get?_after_eq_none hnone h.1) h.2

end KeyedStore
