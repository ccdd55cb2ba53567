import KeyedStore.Proofs.Storage.Endings

/-!
# A store behind a failed load

Many updates load an entity, change it and store it. The store does not know whether the load has
failed: nothing is loaded in either case, and only a report tells the two apart. What is stored then
takes the place of a document that nobody has read.

- `Backend.Slotted`: a backend that keeps documents in slots and may refuse any request;
- `Kind.ends_load_of_reports`: a load that makes a report loads nothing and changes nothing;
- `overwrites_of_failed_load`: what becomes of the documents when a load fails and a store follows.

## References

- SPEC_FULL.md, section 7, Propagation policy
-/

namespace KeyedStore

/-! ## Backends that may refuse requests -/

/-- A backend keeps documents in slots and may refuse any request for any reason. Finding a document
changes none of them, and neither does a request to put one that is refused. -/
structure Backend.Slotted {σ : Type} (backend : Backend σ) (get? : σ → Slot → Option Document) :
    Prop where
  find : ∀ slot state, get? (backend.perform (.find slot) state).2 = get? state
  refused : ∀ slot document state error,
    (backend.perform (.upsert slot document) state).1 = .error error →
      get? (backend.perform (.upsert slot document) state).2 = get? state
  accepted : ∀ slot document state,
    (backend.perform (.upsert slot document) state).1 = .ok () →
      ∀ other, get? (backend.perform (.upsert slot document) state).2 other =
        if other = slot then some document else get? state other

/-- A memory with an outage switch has the slots of the memory behind the switch. -/
theorem Switched.slotted : Switched.backend.Slotted fun state => state.memory.get? where
  find slot state := by
    obtain ⟨memory, down⟩ := state
    simp only [backend]
    -- The switch is asked before the memory.
    split
    · rfl
    · cases memory <;> rfl
  refused slot document state error h := by
    obtain ⟨memory, down⟩ := state
    simp only [backend] at h ⊢
    split at h
    · rename_i hdown
      rw [if_pos hdown]
    · rename_i hup
      rw [if_neg hup]
      cases memory with
      | opened shelf => exact absurd h (by simp [Memory.perform])
      | closed => rfl
  accepted slot document state h := by
    obtain ⟨memory, down⟩ := state
    simp only [backend] at h ⊢
    split at h
    · exact absurd h (by simp)
    · rename_i hup
      rw [if_neg hup]
      cases memory with
      | opened shelf => exact (Memory.changesOnly_put shelf slot document).2
      | closed => exact absurd h (by simp [Memory.perform])

namespace Kind

variable {σ α : Type} {backend : Backend σ} {kind : Kind α} {metadata : Metadata}

/-- A load asks for the document in its slot and nothing else. -/
theorem state_trace_loadSteps (hresolve : kind.declaration.resolve = .ok metadata) (key : String)
    (options : CodecOptions) (state : σ) :
    ((kind.loadSteps key).trace backend options state).state =
      (backend.perform (.find ⟨metadata.collection, key⟩) state).2 := by
  simp only [loadSteps, hresolve, Routine.trace_bind, Routine.trace_ofExcept, Routine.trace_find,
    Outcome.ofExcept]
  -- After the look-up the backend is not asked any more, whatever has been found.
  cases (backend.perform (.find ⟨metadata.collection, key⟩) state).1 with
  | error error => rfl
  | ok found =>
    cases found with
    | none => rfl
    | some document =>
      simp only [Routine.trace_bind, Routine.trace_codec, Routine.trace_ofExcept]
      cases kind.decode options document key <;> rfl

/-- A load that makes a report loads nothing. -/
theorem ends_load_of_reports (hresolve : kind.declaration.resolve = .ok metadata) {key : String}
    {service : Service σ} (h : (kind.load key).reports backend service ≠ []) :
    ∃ reports, (kind.load key).Ends backend service.options service.state (.done none)
      (backend.perform (.find ⟨metadata.collection, key⟩) service.state).2 reports := by
  have hafter : ((kind.loadSteps key).trace backend service.options service.state).state = _ :=
    state_trace_loadSteps hresolve key service.options service.state
  generalize htrace : (kind.loadSteps key).trace backend service.options service.state = steps
    at hafter
  have hends := Operation.ends_of_steps (.load kind key) htrace
  obtain ⟨-, -, hreports⟩ := hends.run_eq
  obtain ⟨outcome, after, events⟩ := steps
  obtain rfl := hafter
  cases outcome with
  | done found => exact absurd hreports h
  | aborted cause => exact absurd hreports h
  | failed error =>
    -- Only a failure that is no configuration error is reported.
    have herror : ¬ error.isConfiguration = true := by
      intro hconfiguration
      simp only [Operation.reported, if_pos hconfiguration] at hreports
      exact h hreports
    simp only [Operation.settled, if_neg herror] at hends
    exact ⟨_, hends⟩

/-- The state that a store leaves behind is that of the backend after the document is put. -/
theorem state_trace_store {entity : α} {options : CodecOptions} {encoded : Encoded}
    (hencode : kind.encode options entity = .done encoded) (state : σ) :
    ((kind.store entity).trace backend options state).state =
      (backend.perform (.upsert ⟨encoded.collection, encoded.key⟩ encoded.document) state).2 := by
  refine (Operation.state_trace_routine backend options (.store kind entity) state).trans ?_
  change ((kind.storeSteps entity).trace backend options state).state = _
  simp only [storeSteps, Routine.trace_bind, Routine.trace_codec, Routine.trace_ofOutcome, hencode,
    Routine.trace_upsert]
  rfl

/-- An entity that has no document leaves the backend alone. -/
theorem state_trace_store_of_failed {entity : α} {options : CodecOptions} {error : StoreError}
    (hencode : kind.encode options entity = .failed error) (state : σ) :
    ((kind.store entity).trace backend options state).state = state := by
  refine (Operation.state_trace_routine backend options (.store kind entity) state).trans ?_
  change ((kind.storeSteps entity).trace backend options state).state = _
  simp only [storeSteps, Routine.trace_bind, Routine.trace_codec, Routine.trace_ofOutcome, hencode]
  rfl

end Kind

/-! ## A store behind a load that has failed -/

section Overwriting

variable {σ α β : Type} {backend : Backend σ} {get? : σ → Slot → Option Document}

/-- After a look at a slot a document has been put into it, whatever the slot has held, if the
backend has taken it. If it has not, all documents are as they were. -/
def Overwrites (backend : Backend σ) (get? : σ → Slot → Option Document) (slot : Slot)
    (document : Document) (before after : σ) : Prop :=
  match (backend.perform (.upsert slot document) (backend.perform (.find slot) before).2).1 with
  | .ok _ => ∀ other, get? after other = if other = slot then some document else get? before other
  | .error _ => ∀ other, get? after other = get? before other

/-- A document that is put after a look-up takes the place of what was there. -/
theorem Backend.Slotted.overwrites (h : backend.Slotted get?) (slot : Slot) (document : Document)
    (before : σ) :
    Overwrites backend get? slot document before
      (backend.perform (.upsert slot document) (backend.perform (.find slot) before).2).2 := by
  unfold Overwrites
  split
  · rename_i hok
    intro other
    rw [h.accepted slot document _ hok other, h.find]
  · rename_i error herror
    intro other
    rw [h.refused slot document _ error herror, h.find]

/-- What is told behind a routine does not matter for the state that it leaves behind. -/
theorem Routine.state_trace_bind_pure (routine : Routine α) (answer : β) (options : CodecOptions)
    (state : σ) :
    ((routine >>= fun _ => pure answer).trace backend options state).state =
      (routine.trace backend options state).state := by
  rw [trace_bind]
  generalize routine.trace backend options state = first
  obtain ⟨outcome, after, events⟩ := first
  cases outcome <;> rfl

variable {kind : StructuredKind α} {metadata : Metadata} {key : String} {service : Service σ}
  {next : Option α → Routine β} {record : α}

/-- If a load makes a report, a routine that goes on with a store is that store. -/
theorem run_state_of_failed_load (hresolve : kind.declaration.resolve = .ok metadata)
    (hload : (Facade.load kind key).reports backend service ≠ []) (answer : β)
    (hnext : next none = do
      Facade.store kind record
      pure answer) :
    ((Facade.load kind key >>= next).run backend service).2.state =
      ((Facade.store kind record).trace backend service.options
        (backend.perform (.find ⟨metadata.collection, key⟩) service.state).2).state := by
  obtain ⟨reports, events, htrace, -⟩ :=
    (Kind.structured kind).ends_load_of_reports hresolve hload
  change (Facade.load kind key).trace backend service.options service.state = _ at htrace
  -- The answer behind the store moves nothing, so the store may be taken for the whole of the rest.
  rw [Routine.run_eq_trace, ← Routine.state_trace_bind_pure _ answer, ← hnext]
  simp only [Service.noteAll_state, Routine.trace_bind, htrace]
  rfl

/-- The record takes the place of whatever the load could not read, if the backend lets it. -/
theorem overwrites_of_failed_load (hslotted : backend.Slotted get?)
    (hresolve : kind.declaration.resolve = .ok metadata)
    (hload : (Facade.load kind key).reports backend service ≠ []) (answer : β)
    (hnext : next none = do
      Facade.store kind record
      pure answer) {document : Document}
    (hencode : (Codec.encode kind service.options record).value =
      .ok ⟨metadata.collection, key, document⟩) :
    Overwrites backend get? ⟨metadata.collection, key⟩ document service.state
      ((Facade.load kind key >>= next).run backend service).2.state := by
  have hencoding : (Kind.structured kind).encode service.options record =
      .done ⟨metadata.collection, key, document⟩ := congrArg Outcome.ofExcept hencode
  rw [run_state_of_failed_load hresolve hload answer hnext]
  have hstore : ((Facade.store kind record).trace backend service.options _).state = _ :=
    (Kind.structured kind).state_trace_store hencoding
      (backend.perform (.find ⟨metadata.collection, key⟩) service.state).2
  rw [hstore]
  exact hslotted.overwrites _ document service.state

/-- A record that has no document leaves all documents as they were. -/
theorem get?_of_failed_load (hslotted : backend.Slotted get?)
    (hresolve : kind.declaration.resolve = .ok metadata)
    (hload : (Facade.load kind key).reports backend service ≠ []) (answer : β)
    (hnext : next none = do
      Facade.store kind record
      pure answer) {error : StoreError}
    (hencode : (Codec.encode kind service.options record).value = .error error) :
    get? ((Facade.load kind key >>= next).run backend service).2.state = get? service.state := by
  have hencoding : (Kind.structured kind).encode service.options record = .failed error :=
    congrArg Outcome.ofExcept hencode
  have hstore : ((Facade.store kind record).trace backend service.options _).state = _ :=
    (Kind.structured kind).state_trace_store_of_failed hencoding
      (backend.perform (.find ⟨metadata.collection, key⟩) service.state).2
  rw [run_state_of_failed_load hresolve hload answer hnext, hstore, hslotted.find]

end Overwriting

end KeyedStore
