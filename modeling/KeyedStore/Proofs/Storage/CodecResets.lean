import KeyedStore.Player.Level
import KeyedStore.Proofs.Codec.Decoding
import KeyedStore.Proofs.Storage.Settling
import KeyedStore.Proofs.Storage.Steps
import KeyedStore.Repository.Memory

/-!
# Changes of the codec during an operation

Another thread can change the options of the codec between any two steps of an operation. An
operation reads the options once at most, and from then on it goes on with what it has read. A store
reads them first of all, but a load looks for the document before it does. So an operation is
carried out with the options that are in force when it reads them, and not always with those of its
start.

- `Routine.turns`: a routine with changes of the options in between;
- `inForce`: the options that are in force when a step of its own is taken;
- `ReadsAfter`: a routine reads the options once at most, after so many steps;
- `Operation.readsAfter`: so it is with every operation;
- `Operation.turns_comesTo_inForce`: what an operation comes to;
- `Operation.not_forall_turns_reports_of_start`: a load can report with other options than those of
  its start.

## References

- SPEC_FULL.md, section 10.4, `reset_codec`
-/

namespace KeyedStore

/-- Notes have nothing to do with the options of the codec. -/
theorem Service.note_resetCodec {σ : Type} (service : Service σ) (options : CodecOptions)
    (event : Event) :
    (service.resetCodec options).note event = (service.note event).resetCodec options := by
  unfold note resetCodec logAll
  cases event with
  | log entry => rfl
  | report report => cases hsink : service.sink <;> simp

namespace Routine

variable {σ α β : Type}

/-! ## Changes between steps -/

/-- What happens next while a routine is carried out. -/
inductive Turn where
  /-- The routine takes a step. -/
  | step
  /-- Another thread changes the options of the codec. -/
  | reset (options : CodecOptions)

/-- What is left of a routine after a turn, and what the turn leaves behind. -/
def turn (backend : Backend σ) (now : Routine α × Service σ) : Turn → Routine α × Service σ
  | .step => now.1.step backend now.2
  | .reset choices => (now.1, now.2.resetCodec choices)

/-- What is left of a routine after some turns, and what they leave behind. -/
def turns (backend : Backend σ) (routine : Routine α) (service : Service σ)
    (schedule : List Turn) : Routine α × Service σ :=
  schedule.foldl (turn backend) (routine, service)

/-- The options in force when a routine takes a step that has so many steps before it. -/
def inForce : Nat → CodecOptions → List Turn → CodecOptions
  | _, current, [] => current
  | steps, _, .reset choices :: schedule => inForce steps choices schedule
  | 0, current, .step :: _ => current
  | steps + 1, current, .step :: schedule => inForce steps current schedule

/-- If no change comes before the step, the options are those of the start. -/
theorem inForce_eq {steps : Nat} {options : CodecOptions} {schedule : List Turn}
    (h : ∀ other, Turn.reset other ∉ schedule.take (steps + 1)) :
    inForce steps options schedule = options := by
  induction schedule generalizing steps with
  | nil => rw [inForce]
  | cons turn schedule ih =>
    cases turn with
    | reset other => exact absurd List.mem_cons_self (h other)
    | step =>
      cases steps with
      | zero => rw [inForce]
      | succ steps =>
        rw [inForce]
        exact ih fun other hmem => h other (List.mem_cons_of_mem _ hmem)

/-! ## Routines that read the options once at most -/

/-- A routine never reads the options. -/
def CodecFree : Routine α → Prop
  | .done _ | .fail _ | .abort _ => True
  | .call _ next => ∀ answer, (next answer).CodecFree
  | .options _ => False
  | .emit _ next => next.CodecFree

/-- A routine reads the options once at most, and only after so many steps. -/
def ReadsAfter : Routine α → Nat → Prop
  | .done _, _ | .fail _, _ | .abort _, _ => True
  | .call _ next, 0 => ∀ answer, (next answer).CodecFree
  | .call _ next, steps + 1 => ∀ answer, (next answer).ReadsAfter steps
  | .options next, 0 => ∀ options, (next options).CodecFree
  | .options _, _ + 1 => False
  | .emit _ next, 0 => next.CodecFree
  | .emit _ next, steps + 1 => next.ReadsAfter steps

variable {routine : Routine α} {steps : Nat}

/-- Routines that leave the codec alone do so one after the other. -/
theorem CodecFree.bind {next : α → Routine β} (h : routine.CodecFree)
    (hnext : ∀ value, (next value).CodecFree) : (routine >>= next).CodecFree := by
  change (routine.bind next).CodecFree
  induction routine with
  | done value => exact hnext value
  | fail _ | abort _ => trivial
  | call request step ih => exact fun answer => ih answer (h answer)
  | options step _ => exact absurd h id
  | emit event step ih => exact ih h

/-- A routine that leaves the codec alone does so as an attempt. -/
theorem CodecFree.attempt (h : routine.CodecFree) : routine.attempt.CodecFree := by
  induction routine with
  | done _ | fail _ | abort _ => trivial
  | call request step ih => exact fun answer => ih answer (h answer)
  | options step _ => exact absurd h id
  | emit event step ih => exact ih h

/-- A routine that never reads the codec reads it once at most, after any number of steps. -/
theorem CodecFree.readsAfter (h : routine.CodecFree) (steps : Nat) : routine.ReadsAfter steps := by
  induction routine generalizing steps with
  | done _ | fail _ | abort _ => trivial
  | call request step ih =>
    cases steps with
    | zero => exact h
    | succ steps => exact fun answer => ih answer (h answer) steps
  | options step _ => exact absurd h id
  | emit event step ih =>
    cases steps with
    | zero => exact h
    | succ steps => exact ih h steps

/-- A routine that has read the codec may go on with whatever leaves it alone. -/
theorem ReadsAfter.bind {next : α → Routine β} (h : routine.ReadsAfter steps)
    (hnext : ∀ value, (next value).CodecFree) : (routine >>= next).ReadsAfter steps := by
  change (routine.bind next).ReadsAfter steps
  induction routine generalizing steps with
  | done value => exact (hnext value).readsAfter steps
  | fail _ | abort _ => trivial
  | call request step ih =>
    cases steps with
    | zero => exact fun answer => (h answer).bind hnext
    | succ steps => exact fun answer => ih answer (h answer)
  | options step _ =>
    cases steps with
    | zero => exact fun options => (h options).bind hnext
    | succ steps => exact absurd h id
  | emit event step ih =>
    cases steps with
    | zero => exact CodecFree.bind h hnext
    | succ steps => exact ih h

/-- An attempt reads the codec when its routine does. -/
theorem ReadsAfter.attempt (h : routine.ReadsAfter steps) : routine.attempt.ReadsAfter steps := by
  induction routine generalizing steps with
  | done _ | fail _ | abort _ => trivial
  | call request step ih =>
    cases steps with
    | zero => exact fun answer => (h answer).attempt
    | succ steps => exact fun answer => ih answer (h answer)
  | options step _ =>
    cases steps with
    | zero => exact fun options => (h options).attempt
    | succ steps => exact absurd h id
  | emit event step ih =>
    cases steps with
    | zero => exact CodecFree.attempt h
    | succ steps => exact ih h

theorem codecFree_ofExcept (result : Except StoreError α) : (ofExcept result).CodecFree := by
  cases result with
  | ok value => trivial
  | error error => trivial

theorem codecFree_ofOutcome (outcome : Outcome α) : (ofOutcome outcome).CodecFree := by
  cases outcome with
  | done value => trivial
  | failed error => trivial
  | aborted cause => trivial

theorem codecFree_ofLogged (logged : Logged α) : (ofLogged logged).CodecFree := by
  obtain ⟨entries, value⟩ := logged
  unfold ofLogged
  induction entries with
  | nil => trivial
  | cons entry entries ih => exact ih

theorem codecFree_ask (request : Request) : (ask request).CodecFree :=
  fun answer => codecFree_ofExcept answer

/-- The options are read at once. -/
theorem readsAfter_codec : codec.ReadsAfter 0 := fun _ => trivial

/-- The options are read after the backend has been asked. -/
theorem readsAfter_ask_bind {request : Request} {next : request.Answer → Routine β}
    (h : ∀ answer, (next answer).ReadsAfter steps) :
    (ask request >>= next).ReadsAfter (steps + 1) := by
  change ∀ answer, ((ofExcept answer).bind next).ReadsAfter steps
  intro answer
  cases answer with
  | ok value => exact h value
  | error error => trivial

/-! ## What a routine comes to -/

variable {backend : Backend σ} {service : Service σ} {outcome : Outcome α}

/-- A routine that never reads the options does the same whatever they are. -/
theorem CodecFree.trace_eq (h : routine.CodecFree) (options other : CodecOptions) (state : σ) :
    routine.trace backend options state = routine.trace backend other state := by
  induction routine generalizing state with
  | done _ | fail _ | abort _ => rfl
  | call request next ih => exact ih _ (h _) _
  | options next _ => exact absurd h id
  | emit event next ih => exact congrArg (Trace.after [event]) (ih h state)

/-- What the turns of a routine leave behind is what the whole routine leaves behind that is run
with some options, but for the options. -/
def ComesTo (backend : Backend σ) (routine : Routine α) (service : Service σ)
    (options : CodecOptions) (outcome : Outcome α) (after : Service σ) : Prop :=
  ∃ last, routine.run backend (service.resetCodec options) = (outcome, last) ∧
    after = last.resetCodec after.options

/-- A routine that has ended comes to where it is, whatever the options. -/
theorem comesTo_of_ending? (h : routine.ending? = some outcome) (service : Service σ)
    (options : CodecOptions) : routine.ComesTo backend service options outcome service :=
  ⟨_, run_of_ending? h _, rfl⟩

/-- What is left after a step that does not read the options comes to what the whole routine comes
to. -/
theorem ComesTo.of_step {options : CodecOptions} {after : Service σ}
    (hstep : routine.step backend (service.resetCodec options) =
      ((routine.step backend service).1, (routine.step backend service).2.resetCodec options))
    (h : (routine.step backend service).1.ComesTo backend (routine.step backend service).2 options
      outcome after) :
    routine.ComesTo backend service options outcome after := by
  obtain ⟨last, hrun, hafter⟩ := h
  refine ⟨last, ?_, hafter⟩
  rw [← run_step, hstep]
  exact hrun

/-- A step that does not read the options is the same whatever they are. -/
theorem CodecFree.step_resetCodec (h : routine.CodecFree) (service : Service σ)
    (options : CodecOptions) :
    (routine.step backend service).1.CodecFree ∧
      routine.step backend (service.resetCodec options) =
        ((routine.step backend service).1,
          (routine.step backend service).2.resetCodec options) := by
  cases routine with
  | done _ | fail _ | abort _ => exact ⟨trivial, rfl⟩
  | call request next => exact ⟨h _, rfl⟩
  | options next => exact absurd h id
  | emit event next => exact ⟨h, Prod.ext rfl (service.note_resetCodec options event)⟩

/-- Changes of the options are nothing to a routine that never reads them. -/
theorem CodecFree.comesTo (h : routine.CodecFree) {schedule : List Turn}
    (hended : (routine.turns backend service schedule).1.ending? = some outcome)
    (options : CodecOptions) :
    routine.ComesTo backend service options outcome
      (routine.turns backend service schedule).2 := by
  -- The induction is on the schedule, for every routine that is left over.
  induction schedule generalizing routine service with
  | nil => exact comesTo_of_ending? hended service options
  | cons turn schedule ih =>
    cases turn with
    | reset other => exact ih h hended
    | step =>
      obtain ⟨hleft, hstep⟩ := h.step_resetCodec service options
      exact .of_step hstep (ih hleft hended)

/-- A routine that reads the options once comes to what it comes to with the options that are in
force when it reads them. -/
theorem ReadsAfter.comesTo (h : routine.ReadsAfter steps) {schedule : List Turn}
    (hended : (routine.turns backend service schedule).1.ending? = some outcome) :
    routine.ComesTo backend service (inForce steps service.options schedule) outcome
      (routine.turns backend service schedule).2 := by
  induction schedule generalizing routine service steps with
  | nil => exact comesTo_of_ending? hended service _
  | cons turn schedule ih =>
    cases turn with
    | reset other =>
      -- As long as the options are unread, those of the last change are in force.
      rw [inForce]
      exact ih h hended
    | step =>
      cases routine with
      | done _ | fail _ | abort _ =>
        refine CodecFree.comesTo ?_ hended _
        trivial
      | options next =>
        cases steps with
        | zero =>
          -- The options are read now, and never again.
          rw [inForce]
          exact (h service.options).comesTo hended service.options
        | succ steps => exact absurd h id
      | call request next =>
        cases steps with
        | zero =>
          refine CodecFree.comesTo ?_ hended _
          exact h
        | succ steps => exact .of_step rfl (ih (h _) hended)
      | emit event next =>
        cases steps with
        | zero =>
          refine CodecFree.comesTo ?_ hended _
          exact h
        | succ steps =>
          have hoptions := service.note_options event
          rw [inForce, ← hoptions]
          exact .of_step (Prod.ext rfl (service.note_resetCodec _ event)) (ih h hended)

end Routine

/-! ## Operations -/

namespace Facade

open Routine

variable {α β : Type} {steps : Nat}

/-- A settled routine reads the codec when its body does. -/
theorem readsAfter_settle {body : Routine β} (h : body.ReadsAfter steps) (operation : String)
    (metadata : Metadata) (key : String) (fallback : β) :
    (settle operation metadata key fallback body).ReadsAfter steps := by
  apply h.attempt.bind
  intro result
  cases result with
  | ok value => trivial
  | error error =>
    dsimp only
    split_ifs <;> trivial

/-- What comes after a type has been described. -/
theorem readsAfter_resolve (declaration : Declaration) {next : Metadata → Routine β}
    (h : ∀ metadata, (next metadata).ReadsAfter steps) :
    (Routine.ofExcept declaration.resolve >>= next).ReadsAfter steps := by
  cases declaration.resolve with
  | ok metadata => exact h metadata
  | error error => trivial

/-- Storing reads the codec first of all. -/
theorem readsAfter_store (kind : StructuredKind α) (entity : α) :
    (store kind entity).ReadsAfter 0 := by
  apply readsAfter_resolve
  intro metadata
  apply readsAfter_settle
  apply readsAfter_codec.bind
  intro options
  apply (codecFree_ofLogged _).bind
  intro result
  apply (codecFree_ofExcept _).bind
  intro encoded
  exact (codecFree_ask _).bind fun _ => trivial

/-- Loading reads the codec after it has asked for the document. -/
theorem readsAfter_load (kind : StructuredKind α) (key : String) :
    (load kind key).ReadsAfter 1 := by
  apply readsAfter_resolve
  intro metadata
  apply readsAfter_settle
  apply readsAfter_ask_bind
  intro found
  cases found with
  | none => trivial
  | some document =>
    apply readsAfter_codec.bind
    intro options
    exact (codecFree_ofExcept _).bind fun _ => trivial

/-- Storing a binary entity does not read the codec, so no step has to come before. -/
theorem readsAfter_storeBinary (granted : Nat) (kind : BinaryKind α) (entity : α) :
    (storeBinary granted kind entity).ReadsAfter 0 := by
  apply readsAfter_resolve
  intro metadata
  apply readsAfter_settle
  apply CodecFree.readsAfter
  apply (codecFree_ofOutcome _).bind
  intro encoded
  exact (codecFree_ask _).bind fun _ => trivial

/-- Loading a binary entity does not read the codec, so no step has to come before. -/
theorem readsAfter_loadBinary (kind : BinaryKind α) (key : String) :
    (loadBinary kind key).ReadsAfter 0 := by
  apply readsAfter_resolve
  intro metadata
  apply readsAfter_settle
  apply CodecFree.readsAfter
  apply (codecFree_ask _).bind
  intro found
  cases found with
  | none => trivial
  | some document => exact (codecFree_ofExcept _).bind fun _ => trivial

theorem codecFree_occupied (slot : Slot) : (occupied slot).CodecFree :=
  (codecFree_ask _).bind fun _ => trivial

theorem codecFree_clear (slot : Slot) : (clear slot).CodecFree :=
  (codecFree_ask _).bind fun _ => trivial

end Facade

namespace Operation

variable {σ : Type}

/-- The number of steps that an operation takes before it reads the options, if it reads them. -/
def stepsBefore : Operation → Nat
  | .load (.structured _) _ => 1
  | .load (.binary _ _) _ | .store _ _ | .exists? _ _ | .delete _ _ => 0

/-- An operation reads the options once at most. -/
theorem readsAfter (operation : Operation) :
    operation.routine.ReadsAfter operation.stepsBefore := by
  cases operation with
  | store kind entity =>
    cases kind with
    | structured kind => exact Facade.readsAfter_store kind entity
    | binary granted kind => exact Facade.readsAfter_storeBinary granted kind entity
  | load kind key =>
    cases kind with
    | structured kind => exact Facade.readsAfter_load kind key
    | binary _ kind => exact Facade.readsAfter_loadBinary kind key
  | exists? kind key =>
    cases kind <;> exact Facade.readsAfter_resolve _ fun _ =>
      Facade.readsAfter_settle ((Facade.codecFree_occupied _).readsAfter 0) _ _ _ _
  | delete kind key =>
    cases kind <;> exact Facade.readsAfter_resolve _ fun _ =>
      Facade.readsAfter_settle ((Facade.codecFree_clear _).readsAfter 0) _ _ _ _

/-- What the steps of a load come to, by what the backend answers. -/
theorem outcome_loadSteps {α : Type} {kind : Kind α} {metadata : Metadata}
    (hresolve : kind.declaration.resolve = .ok metadata) (key : String) (backend : Backend σ)
    (options : CodecOptions) (state : σ) :
    ((kind.loadSteps key).trace backend options state).outcome =
      match (backend.perform (.find ⟨metadata.collection, key⟩) state).1 with
      | .error error => .failed error
      | .ok none => .done none
      | .ok (some document) => .ofExcept ((kind.decode options document key).map some) := by
  simp only [Kind.loadSteps, hresolve, Routine.trace_bind, Routine.trace_ofExcept,
    Routine.trace_find, Outcome.ofExcept]
  cases (backend.perform (.find ⟨metadata.collection, key⟩) state).1 with
  | error error => rfl
  | ok found =>
    cases found with
    | none => rfl
    | some document =>
      simp only [Routine.trace_bind, Routine.trace_codec, Routine.trace_ofExcept]
      cases kind.decode options document key <;> rfl

/-- Whether a document can be decoded has nothing to do with the options. If it cannot, that is no
configuration error. -/
theorem decode_cases {α : Type} {kind : StructuredKind α} {metadata : Metadata}
    (hresolve : kind.declaration.resolve = .ok metadata) (document : Document) (key : String) :
    (∃ entity, ∀ options, Codec.decode kind options document key = .ok entity) ∨
      ∀ options, ∃ error, Codec.decode kind options document key = .error error ∧
        ¬ error.isConfiguration = true := by
  cases hread : kind.read (.object (Codec.pairsRead metadata document key)) with
  | ok entity =>
    refine .inl ⟨entity, fun options => ?_⟩
    exact (Codec.decode_eq_ok_iff options hresolve).mpr hread
  | error fault =>
    refine .inr fun options => ?_
    obtain ⟨excerpt, hdecode⟩ := Codec.decode_of_fault options hresolve hread
    exact ⟨_, hdecode, Bool.false_ne_true⟩

/-- What a load answers has nothing to do with the options. -/
theorem settled_loadSteps {α : Type} {kind : Kind α} {metadata : Metadata}
    (hresolve : kind.declaration.resolve = .ok metadata) (key : String) (backend : Backend σ)
    (options other : CodecOptions) (state : σ) :
    settled (.load kind key) ((kind.loadSteps key).trace backend options state).outcome =
      settled (.load kind key) ((kind.loadSteps key).trace backend other state).outcome := by
  rw [outcome_loadSteps hresolve, outcome_loadSteps hresolve]
  cases (backend.perform (.find ⟨metadata.collection, key⟩) state).1 with
  | error error => rfl
  | ok found =>
    cases found with
    | none => rfl
    | some document =>
      cases kind with
      | binary _ kind => rfl
      | structured kind =>
        -- A document that cannot be decoded is no answer with any options.
        rcases decode_cases hresolve document key with ⟨entity, hentity⟩ | hnone
        · simp only [Kind.decode, hentity]
        · obtain ⟨first, hfirst, hfirstKind⟩ := hnone options
          obtain ⟨second, hsecond, hsecondKind⟩ := hnone other
          simp only [Kind.decode, hfirst, hsecond, Except.map, Outcome.ofExcept, settled,
            if_neg hfirstKind, if_neg hsecondKind]

/-- What an operation other than a store answers has nothing to do with the options: they only say
how much of a document a report quotes. -/
theorem run_resetCodec {operation : Operation} (h : operation.isStore = false)
    (backend : Backend σ) (service : Service σ) (options : CodecOptions) :
    (operation.routine.run backend (service.resetCodec options)).1 =
      (operation.routine.run backend service).1 := by
  rw [run_eq_settled, run_eq_settled, Routine.run_eq_trace, Routine.run_eq_trace]
  show operation.settled (operation.steps.trace backend options service.state).outcome =
    operation.settled (operation.steps.trace backend service.options service.state).outcome
  cases hresolve : operation.declaration.resolve with
  | error error => rw [trace_steps_of_unresolved hresolve, trace_steps_of_unresolved hresolve]
  | ok metadata =>
    cases operation with
    | store _ _ => exact absurd h (by simp [isStore])
    | load kind key => exact settled_loadSteps hresolve key backend options _ service.state
    | exists? kind key =>
      have hfree : (exists? kind key).steps.CodecFree :=
        (Routine.codecFree_ofExcept _).bind fun _ => (Routine.codecFree_ask _).bind fun _ => trivial
      rw [hfree.trace_eq options service.options]
    | delete kind key =>
      have hfree : (delete kind key).steps.CodecFree :=
        (Routine.codecFree_ofExcept _).bind fun _ => Routine.codecFree_ask _
      rw [hfree.trace_eq options service.options]

/-- Whatever changes of the options come between its steps, an operation comes to what it comes to
with the options in force when it reads them: it ends in the same way, leaves the same documents
behind, and has told the same. If no change comes before it reads them, these are the options of
its start. What an operation other than a store answers is always what it answers with the options
of its start. -/
theorem turns_comesTo_inForce (operation : Operation) (backend : Backend σ) (start : Service σ)
    {schedule : List Routine.Turn} {outcome : Outcome operation.Answer}
    (hended : (operation.routine.turns backend start schedule).1.ending? = some outcome) :
    operation.routine.ComesTo backend start
        (Routine.inForce operation.stepsBefore start.options schedule) outcome
        (operation.routine.turns backend start schedule).2 ∧
      ((∀ other, Routine.Turn.reset other ∉ schedule.take (operation.stepsBefore + 1)) →
        operation.routine.ComesTo backend start start.options outcome
          (operation.routine.turns backend start schedule).2) ∧
      (operation.isStore = false → outcome = (operation.routine.run backend start).1) := by
  have hcomes := operation.readsAfter.comesTo hended
  refine ⟨hcomes, fun hearly => ?_, fun hstore => ?_⟩
  · rwa [Routine.inForce_eq hearly] at hcomes
  · obtain ⟨last, hrun, -⟩ := hcomes
    rw [← run_resetCodec hstore backend start, hrun]

/-- A load finds a document that it cannot decode. Then the options are changed so that an error
quotes three characters only, and then the load reads them. -/
theorem turns_comesTo_inForce_late :
    let written : Document := [("_id", .string "p"), ("experience", .string "10")]
    let start := Service.on (.opened (Shelf.empty.put ⟨"player_levels", "p"⟩ written)) .collect
    let operation : Operation := .load (.structured PlayerLevel.kind) "p"
    let schedule : List Routine.Turn := [.step, .reset ⟨true, 3⟩, .step, .step]
    ∃ outcome,
      (operation.routine.turns Memory.backend start schedule).1.ending? = some outcome ∧
        operation.routine.ComesTo Memory.backend start ⟨true, 3⟩ outcome
          (operation.routine.turns Memory.backend start schedule).2 := by
  intro written start operation schedule
  have hended :
      (operation.routine.turns Memory.backend start schedule).1.ending?.isSome = true := by
    decide +kernel
  obtain ⟨outcome, houtcome⟩ := Option.isSome_iff_exists.mp hended
  exact ⟨outcome, houtcome, (turns_comesTo_inForce operation Memory.backend start houtcome).1⟩

/-- Not every operation reports with the options that are in force at its start. -/
theorem not_forall_turns_reports_of_start :
    ¬ ∀ (operation : Operation) (start : Service Memory) (schedule : List Routine.Turn)
      (outcome : Outcome operation.Answer),
      (operation.routine.turns Memory.backend start schedule).1.ending? = some outcome →
        (operation.routine.turns Memory.backend start schedule).2.reports =
          (operation.routine.run Memory.backend start).2.reports := by
  intro h
  let written : Document := [("_id", .string "p"), ("experience", .string "10")]
  let shelf := Shelf.empty.put ⟨"player_levels", "p"⟩ written
  let start := Service.on (Memory.opened shelf) .collect
  let operation : Operation := .load (.structured PlayerLevel.kind) "p"
  let schedule : List Routine.Turn := [.step, .reset ⟨true, 3⟩, .step, .step]
  have hended :
      (operation.routine.turns Memory.backend start schedule).1.ending?.isSome = true := by
    decide +kernel
  obtain ⟨outcome, houtcome⟩ := Option.isSome_iff_exists.mp hended
  have hmessages := congrArg (List.map fun report : Report => report.error.message default)
    (h operation start schedule outcome houtcome)
  exact absurd hmessages (by decide +kernel)

end Operation

end KeyedStore
