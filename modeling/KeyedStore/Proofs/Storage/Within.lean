import KeyedStore.Proofs.Repository.LookUp
import KeyedStore.Proofs.Storage.Steps

/-!
# Routines about one slot

Most routines ask the backend about a single slot. They cannot tell two states of the documents
apart that agree on this slot, and they leave every other slot alone.

- `Routine.Within`: every request is about a slot, and every value has a property;
- `Within.bind`, `Within.attempt`, `Within.settle`: composed routines;
- `Within.step_eq`, `Within.get?_step_of_ne`: what a step can tell apart, and what it leaves alone;
- `Within.agreeAt_run_of_ne`, `Within.run_eq`: what a run leaves alone, and what it can tell apart;
- `within_store`, `within_load`, `within_delete`: the operations on structured entities.

## References

- SPEC_FULL.md, section 5
-/

namespace KeyedStore

/-! ## Documents that agree -/

namespace Memory

/-- Two states of the documents agree on a slot. -/
structure AgreeAt (slot : Slot) (first second : Memory) : Prop where
  /-- Both are open, or both are closed. -/
  isOpen : first.isOpen = second.isOpen
  /-- The slot holds the same document in both. -/
  get? : first.get? slot = second.get? slot

/-- An answer depends on the slot of the request alone. -/
theorem AgreeAt.perform {first second : Memory} {request : Request}
    (h : AgreeAt request.slot first second) :
    (perform request first).1 = (perform request second).1 ∧
      AgreeAt request.slot (perform request first).2 (perform request second).2 := by
  obtain ⟨hopen, hget⟩ := h
  cases first with
  | closed =>
    cases second with
    | closed => exact ⟨rfl, ⟨rfl, rfl⟩⟩
    | opened _ => exact absurd hopen (by simp [Memory.isOpen])
  | opened shelf =>
    cases second with
    | closed => exact absurd hopen (by simp [Memory.isOpen])
    | opened other =>
      change shelf.get? request.slot = other.get? request.slot at hget
      -- Each answer is about the slot, where the two shelves have the same document.
      cases request with
      | upsert slot document =>
        refine ⟨rfl, rfl, ?_⟩
        exact (shelf.get?_put_self slot document).trans (other.get?_put_self slot document).symm
      | find slot => exact ⟨congrArg Except.ok hget, rfl, hget⟩
      | count slot =>
        refine ⟨?_, rfl, hget⟩
        simp only [Memory.perform, serve]
        rw [show shelf.get? slot = other.get? slot from hget]
      | delete slot =>
        refine ⟨rfl, rfl, ?_⟩
        exact (shelf.get?_erase_self slot).trans (other.get?_erase_self slot).symm

/-- A request leaves every other slot alone, and the backend open or closed. -/
theorem get?_perform_of_ne (memory : Memory) {request : Request} {slot : Slot}
    (h : slot ≠ request.slot) : (perform request memory).2.get? slot = memory.get? slot := by
  cases memory with
  | closed => rfl
  | opened shelf =>
    cases request with
    | upsert other document => exact shelf.get?_put_of_ne h document
    | find _ | count _ => rfl
    | delete other => exact shelf.get?_erase_of_ne h

/-- No request opens or closes a store. -/
theorem isOpen_perform (request : Request) (memory : Memory) :
    (perform request memory).2.isOpen = memory.isOpen := by
  cases memory with
  | closed => rfl
  | opened shelf => cases request <;> rfl

end Memory

namespace Service

/-- Two stores agree on a slot and on the options of the codec. -/
structure AgreeAt (slot : Slot) (first second : Service Memory) : Prop where
  /-- The documents agree on the slot. -/
  state : first.state.AgreeAt slot second.state
  /-- The options are the same. -/
  options : first.options = second.options

variable {slot : Slot} {first second third : Service Memory}

theorem AgreeAt.refl (slot : Slot) (service : Service Memory) : service.AgreeAt slot service :=
  ⟨⟨rfl, rfl⟩, rfl⟩

theorem AgreeAt.trans (h : first.AgreeAt slot second) (hnext : second.AgreeAt slot third) :
    first.AgreeAt slot third :=
  ⟨⟨h.state.isOpen.trans hnext.state.isOpen, h.state.get?.trans hnext.state.get?⟩,
    h.options.trans hnext.options⟩

/-- Stores with the same documents and options agree on every slot. -/
theorem agreeAt_of_eq (hstate : first.state = second.state)
    (hoptions : first.options = second.options) (slot : Slot) : first.AgreeAt slot second :=
  ⟨⟨congrArg Memory.isOpen hstate, congrArg (fun state => state.get? slot) hstate⟩, hoptions⟩

/-- Nothing that is told to the outside changes a slot or the options. -/
theorem agreeAt_note (slot : Slot) (service : Service Memory) (event : Event) :
    (service.note event).AgreeAt slot service :=
  agreeAt_of_eq (service.note_state event) (service.note_options event) slot

end Service

namespace Routine

variable {α β : Type} {slot : Slot}

/-- Every request of a routine is about a slot, and every value that it can end with is good. -/
def Within (slot : Slot) (good : α → Prop) : Routine α → Prop
  | .done value => good value
  | .fail _ | .abort _ => True
  | .call request next => request.slot = slot ∧ ∀ answer, (next answer).Within slot good
  | .options next => ∀ options, (next options).Within slot good
  | .emit _ next => next.Within slot good

variable {good : α → Prop} {fine : β → Prop} {routine : Routine α}

/-! ## Composed routines -/

/-- What is known of the values of a routine may be told in other words. -/
theorem Within.mono (h : routine.Within slot good) {better : α → Prop}
    (himp : ∀ value, good value → better value) : routine.Within slot better := by
  induction routine with
  | done value => exact himp value h
  | fail error => trivial
  | abort cause => trivial
  | call request next ih => exact ⟨h.1, fun answer => ih answer (h.2 answer)⟩
  | options next ih => exact fun options => ih options (h options)
  | emit event next ih => exact ih h

/-- Routines about one slot are about it one after the other. -/
theorem Within.bind {next : α → Routine β} (h : routine.Within slot good)
    (hnext : ∀ value, good value → (next value).Within slot fine) :
    (routine >>= next).Within slot fine := by
  change (routine.bind next).Within slot fine
  induction routine with
  | done value => exact hnext value h
  | fail error => trivial
  | abort cause => trivial
  | call request step ih => exact ⟨h.1, fun answer => ih answer (h.2 answer)⟩
  | options step ih => exact fun options => ih options (h options)
  | emit event step ih => exact ih h

/-- An attempt is about the slot of its routine. -/
theorem Within.attempt (h : routine.Within slot good) :
    routine.attempt.Within slot fun result => ∀ value, result = .ok value → good value := by
  induction routine with
  | done value =>
    intro other hother
    rwa [← Except.ok.inj hother]
  | fail error => exact fun value hvalue => absurd hvalue (by simp)
  | abort cause => trivial
  | call request next ih => exact ⟨h.1, fun answer => ih answer (h.2 answer)⟩
  | options next ih => exact fun options => ih options (h options)
  | emit event next ih => exact ih h

/-- A settled routine ends as the routine does, or with its fallback. -/
theorem Within.settle (h : routine.Within slot good) (operation : String) (metadata : Metadata)
    (key : String) {fallback : α} (hfallback : good fallback) :
    (Facade.settle operation metadata key fallback routine).Within slot good := by
  rw [Facade.settle]
  apply h.attempt.bind
  intro result hresult
  cases result with
  | ok value => exact hresult value rfl
  | error error =>
    -- A configuration error fails, any other is reported and gives the fallback.
    dsimp only
    split_ifs
    · trivial
    · exact hfallback

theorem within_pure {value : α} (h : good value) : (pure value : Routine α).Within slot good := h

theorem within_abort (cause : Abort) : (abort cause : Routine α).Within slot good := trivial

theorem within_ofExcept (result : Except StoreError α) :
    (ofExcept result).Within slot fun value => result = .ok value := by
  cases result with
  | ok value => rfl
  | error error => trivial

theorem within_ofLogged (logged : Logged α) :
    (ofLogged logged).Within slot fun value => value = logged.value := by
  obtain ⟨entries, value⟩ := logged
  unfold ofLogged
  induction entries with
  | nil => rfl
  | cons entry entries ih => exact ih

theorem within_codec : codec.Within slot fun _ => True := fun _ => trivial

theorem within_ask {request : Request} (h : request.slot = slot) :
    (ask request).Within slot fun _ => True :=
  ⟨h, fun answer => (within_ofExcept answer).mono fun _ _ => trivial⟩

theorem within_log (entry : LogEntry) : (log entry).Within slot fun _ => True := trivial

/-! ## Steps -/

/-- What is left after a step is about the same slot. -/
theorem Within.step (h : routine.Within slot good) (service : Service Memory) :
    (routine.step Memory.backend service).1.Within slot good := by
  cases routine with
  | done _ | fail _ | abort _ => exact h
  | call request next => exact h.2 _
  | options next => exact h _
  | emit event next => exact h

/-- A step cannot tell stores apart that agree on the slot, and they agree on it afterwards. -/
theorem Within.step_eq (h : routine.Within slot good) {first second : Service Memory}
    (hagree : first.AgreeAt slot second) :
    (routine.step Memory.backend first).1 = (routine.step Memory.backend second).1 ∧
      (routine.step Memory.backend first).2.AgreeAt slot
        (routine.step Memory.backend second).2 := by
  cases routine with
  | done _ | fail _ | abort _ => exact ⟨rfl, hagree⟩
  | call request next =>
    -- The stores agree on the slot of the request, so they answer alike.
    obtain ⟨rfl, -⟩ := h
    obtain ⟨hanswer, hstate⟩ := hagree.state.perform
    exact ⟨congrArg next hanswer, hstate, hagree.options⟩
  | options next => exact ⟨congrArg next hagree.options, hagree⟩
  | emit event next =>
    refine ⟨rfl, ?_, ?_⟩
    · simp only [Routine.step, Service.note_state]
      exact hagree.state
    · simp only [Routine.step, Service.note_options]
      exact hagree.options

/-- A step leaves every other slot alone. -/
theorem Within.get?_step_of_ne (h : routine.Within slot good) (service : Service Memory)
    {other : Slot} (hne : other ≠ slot) :
    (routine.step Memory.backend service).2.state.get? other = service.state.get? other := by
  cases routine with
  | done _ | fail _ | abort _ | options _ => rfl
  | call request next =>
    obtain ⟨rfl, -⟩ := h
    exact service.state.get?_perform_of_ne hne
  | emit event next => simp only [Routine.step, Service.note_state]

/-- No step opens or closes the backend. -/
theorem isOpen_step (routine : Routine α) (service : Service Memory) :
    (routine.step Memory.backend service).2.state.isOpen = service.state.isOpen := by
  cases routine with
  | done _ | fail _ | abort _ | options _ => rfl
  | call request next => exact Memory.isOpen_perform request service.state
  | emit event next => simp only [Routine.step, Service.note_state]

/-- No step changes the options of the codec. -/
theorem options_step {σ : Type} (backend : Backend σ) (routine : Routine α) (service : Service σ) :
    (routine.step backend service).2.options = service.options := by
  cases routine with
  | done _ | fail _ | abort _ | options _ | call _ _ => rfl
  | emit event next => simp only [Routine.step, Service.note_options]

/-- So stores agree on every other slot before and after a step. -/
theorem Within.agreeAt_step_of_ne (h : routine.Within slot good) (service : Service Memory)
    {other : Slot} (hne : other ≠ slot) :
    (routine.step Memory.backend service).2.AgreeAt other service :=
  ⟨⟨routine.isOpen_step service, h.get?_step_of_ne service hne⟩,
    routine.options_step Memory.backend service⟩

/-! ## Runs -/

/-- No run changes the options of the codec. -/
theorem options_run {σ : Type} (backend : Backend σ) (routine : Routine α) (service : Service σ) :
    (routine.run backend service).2.options = service.options := by
  induction routine generalizing service with
  | done _ | fail _ | abort _ => rfl
  | call request next ih => exact ih _ _
  | options next ih => exact ih _ _
  | emit event next ih => exact (ih _).trans (service.note_options event)

/-- Stores agree on every other slot before and after a run. -/
theorem Within.agreeAt_run_of_ne (h : routine.Within slot good) (service : Service Memory)
    {other : Slot} (hne : other ≠ slot) :
    (routine.run Memory.backend service).2.AgreeAt other service := by
  -- A run is a step and the run of what is left, which is about the same slot.
  induction routine generalizing service with
  | done _ | fail _ | abort _ => exact .refl other service
  | call request next ih =>
    have hcall : (Routine.call request next).Within slot good := h
    exact (ih _ (h.2 _) _).trans (hcall.agreeAt_step_of_ne service hne)
  | options next ih => exact ih _ (h _) service
  | emit event next ih =>
    have hemit : (Routine.emit event next).Within slot good := h
    exact (ih h _).trans (hemit.agreeAt_step_of_ne service hne)

/-- A run cannot tell stores apart that agree on the slot, and they agree on it afterwards. -/
theorem Within.run_eq (h : routine.Within slot good) {first second : Service Memory}
    (hagree : first.AgreeAt slot second) :
    (routine.run Memory.backend first).1 = (routine.run Memory.backend second).1 ∧
      (routine.run Memory.backend first).2.AgreeAt slot
        (routine.run Memory.backend second).2 := by
  induction routine generalizing first second with
  | done _ | fail _ | abort _ => exact ⟨rfl, hagree⟩
  | call request next ih =>
    -- The stores answer alike, so that the same is left to be run on both.
    have hcall : (Routine.call request next).Within slot good := h
    obtain ⟨hleft, hafter⟩ := hcall.step_eq hagree
    rw [← run_step _ (.call request next) first, ← run_step _ (.call request next) second, ← hleft]
    exact ih _ (h.2 _) hafter
  | options next ih =>
    simp only [run, hagree.options]
    exact ih _ (h _) hagree
  | emit event next ih =>
    have hemit : (Routine.emit event next).Within slot good := h
    exact ih h (hemit.step_eq hagree).2

end Routine

/-! ## Operations -/

namespace Facade

open Routine

variable {α : Type} {kind : StructuredKind α} {metadata : Metadata} {key : String}

/-- An entity is stored into the slot of its own key. -/
theorem within_store (hresolve : kind.declaration.resolve = .ok metadata) {entity : α}
    (hkey : kind.key entity = some key) :
    (store kind entity).Within ⟨metadata.collection, key⟩ fun _ => True := by
  simp only [store, hresolve]
  refine Within.settle ?_ _ _ _ trivial
  apply within_codec.bind
  intro options _
  apply (within_ofLogged _).bind
  intro result hresult
  apply (within_ofExcept _).bind
  intro encoded hencoded
  -- The document is for the collection of the type and for the key of the entity.
  have hencode : (Kind.structured kind).encode options entity = .done encoded := by
    rw [Kind.encode, ← hresult, hencoded, Outcome.ofExcept]
  obtain ⟨other, hother, hrequire, hcollection⟩ := Kind.encode_eq_done hencode
  obtain rfl : metadata = other := Except.ok.inj (hresolve.symm.trans hother)
  have hencodedKey : encoded.key = key := by
    change Codec.requireKey metadata (kind.key entity) = .ok encoded.key at hrequire
    rw [hkey, Codec.requireKey] at hrequire
    split_ifs at hrequire
    exact (Except.ok.inj hrequire).symm
  rw [hcollection, hencodedKey]
  exact Within.bind (within_ask rfl) fun _ _ => within_log _

/-- An entity is loaded from the slot of its key. -/
theorem within_load (hresolve : kind.declaration.resolve = .ok metadata) (key : String) :
    (load kind key).Within ⟨metadata.collection, key⟩ fun found => ∀ entity ∈ found,
      ∃ options document, Codec.decode kind options document key = .ok entity := by
  simp only [load, hresolve]
  refine Within.settle ?_ _ _ _ (by simp)
  apply Within.bind (within_ask rfl)
  intro found _
  cases found with
  | none => exact within_pure (by simp)
  | some document =>
    apply within_codec.bind
    intro options _
    apply (within_ofExcept _).bind
    intro entity hentity
    -- Whatever the backend has answered, what is loaded has been decoded under the key.
    apply within_pure
    intro other hother
    obtain rfl := Option.some.inj hother
    exact ⟨options, document, hentity⟩

/-- The slot of a key is emptied. -/
theorem within_delete (hresolve : kind.declaration.resolve = .ok metadata) (key : String) :
    (delete kind key).Within ⟨metadata.collection, key⟩ fun _ => True := by
  simp only [delete, hresolve]
  exact Within.settle (Within.bind (within_ask rfl) fun _ _ => within_log _) _ _ _ trivial

end Facade

-- What is composed of these operations need not be unfolded, which would be to run it.
attribute [irreducible] Routine.Within

end KeyedStore
