import KeyedStore.Storage.Facade
import KeyedStore.Storage.Service

/-!
# Traces of routines

A run threads the whole service through a routine, although a routine only moves the state of the
backend and only adds to what is told. `Routine.trace` keeps the two apart: how a routine ends, the
state that it leaves behind, and what it has told, in order. What becomes of reports has no part in
it.

- `run_eq_trace`: a run is the trace, with what is told noted in the service;
- `trace_bind`, `trace_settle`: the traces of composed routines and of settled ones;
- `reports_eq`: the reports that a collecting service is given are those of the trace.

## References

- SPEC_FULL.md, section 4.4
-/

namespace KeyedStore

/-- The report that an event carries, if it is one. -/
def Event.report? : Event → Option Report
  | .report found => some found
  | .log _ => none

/-- How a routine ends, the state that it leaves behind, and what it has told. -/
structure Trace (σ α : Type) where
  /-- How it ends. -/
  outcome : Outcome α
  /-- The state that it leaves behind. -/
  state : σ
  /-- What it has told, in order. -/
  events : List Event

namespace Trace

variable {σ α : Type}

/-- The trace after some events. -/
def after (events : List Event) (trace : Trace σ α) : Trace σ α :=
  { trace with events := events ++ trace.events }

/-- The reports among what has been told. -/
def reports (trace : Trace σ α) : List Report :=
  trace.events.filterMap Event.report?

end Trace

namespace Service

variable {σ : Type}

/-- The service with its backend in another state. -/
def movedTo (service : Service σ) (state : σ) : Service σ :=
  { service with state }

/-- Take note of events in turn. -/
def noteAll (service : Service σ) (events : List Event) : Service σ :=
  events.foldl note service

@[simp]
theorem note_state (service : Service σ) (event : Event) :
    (service.note event).state = service.state := by
  unfold note logAll
  split
  · rfl
  · split <;> rfl

@[simp]
theorem note_options (service : Service σ) (event : Event) :
    (service.note event).options = service.options := by
  unfold note logAll
  split
  · rfl
  · split <;> rfl

@[simp]
theorem note_sink (service : Service σ) (event : Event) :
    (service.note event).sink = service.sink := by
  unfold note logAll
  split
  · rfl
  · split <;> rfl

/-- Notes have nothing to do with the state of the backend. -/
theorem note_movedTo (service : Service σ) (state : σ) (event : Event) :
    (service.note event).movedTo state = (service.movedTo state).note event := by
  unfold note movedTo logAll
  cases event with
  | log entry => rfl
  | report report => cases hsink : service.sink <;> simp

@[simp]
theorem noteAll_state (service : Service σ) (events : List Event) :
    (service.noteAll events).state = service.state := by
  induction events generalizing service with
  | nil => rfl
  | cons event events ih => rw [noteAll, List.foldl_cons, ← noteAll, ih, note_state]

@[simp]
theorem noteAll_sink (service : Service σ) (events : List Event) :
    (service.noteAll events).sink = service.sink := by
  induction events generalizing service with
  | nil => rfl
  | cons event events ih => rw [noteAll, List.foldl_cons, ← noteAll, ih, note_sink]

/-- A collecting service is given every report, in order. -/
theorem noteAll_reports {service : Service σ} (h : service.sink = .collect) (events : List Event) :
    (service.noteAll events).reports = service.reports ++ events.filterMap Event.report? := by
  induction events generalizing service with
  | nil => simp [noteAll]
  | cons event events ih =>
    rw [noteAll, List.foldl_cons, ← noteAll, ih (by rw [note_sink, h])]
    cases event with
    | log entry => rfl
    | report report =>
      -- A sink that collects keeps the report behind those it has.
      rw [List.filterMap_cons_some (show Event.report? (.report report) = some report from rfl),
        note, h]
      simp

end Service

namespace Routine

variable {σ α β : Type}

/-- The trace of a routine under some options of the codec, from a state of the backend. -/
def trace (backend : Backend σ) (options : CodecOptions) : Routine α → σ → Trace σ α
  | .done value, state => ⟨.done value, state, []⟩
  | .fail error, state => ⟨.failed error, state, []⟩
  | .abort cause, state => ⟨.aborted cause, state, []⟩
  | .call request next, state =>
    let (answer, state) := backend.perform request state
    trace backend options (next answer) state
  | .options next, state => trace backend options (next options) state
  | .emit event next, state => (trace backend options next state).after [event]

theorem pure_bind (value : α) (next : α → Routine β) : pure value >>= next = next value := rfl

/-- Composition is associative. -/
theorem bind_assoc {γ : Type} (routine : Routine α) (next : α → Routine β)
    (last : β → Routine γ) :
    routine >>= next >>= last = routine >>= fun value => next value >>= last := by
  change (routine.bind next).bind last = routine.bind fun value => (next value).bind last
  induction routine with
  | done value => rfl
  | fail error => rfl
  | abort cause => rfl
  | call request step ih => exact congrArg (call request) (funext ih)
  | options step ih => exact congrArg options (funext ih)
  | emit event step ih => exact congrArg (emit event) ih

/-- A run is the trace, with what is told noted in the service. -/
theorem run_eq_trace (backend : Backend σ) (routine : Routine α) (service : Service σ) :
    routine.run backend service =
      let trace := routine.trace backend service.options service.state
      (trace.outcome, (service.movedTo trace.state).noteAll trace.events) := by
  induction routine generalizing service with
  | done value => rfl
  | fail error => rfl
  | abort cause => rfl
  | call request next ih => exact ih _ _
  | options next ih => exact ih _ _
  | emit event next ih =>
    -- The event is noted before the rest is run, and in a trace it stands before the others.
    rw [run, ih, trace, Service.note_options, Service.note_state]
    simp only [Service.note_movedTo]
    rfl

/-- The reports of a run: what a service that collects them is given. -/
def reports (backend : Backend σ) (routine : Routine α) (service : Service σ) : List Report :=
  (routine.run backend { service with sink := .collect, reports := [] }).2.reports

/-- The reports that a collecting service is given are those of the trace. -/
theorem reports_eq (backend : Backend σ) (routine : Routine α) (service : Service σ) :
    routine.reports backend service =
      (routine.trace backend service.options service.state).reports := by
  rw [reports, run_eq_trace, Trace.reports]
  exact Service.noteAll_reports rfl _

/-- A collecting service is given the reports of a run behind those that it has. -/
theorem run_reports_of_collect (backend : Backend σ) (routine : Routine α) {service : Service σ}
    (h : service.sink = .collect) :
    (routine.run backend service).2.reports =
      service.reports ++ routine.reports backend service := by
  rw [reports_eq, run_eq_trace]
  have hmoved : (service.movedTo
      (routine.trace backend service.options service.state).state).sink = .collect := h
  exact Service.noteAll_reports hmoved _

/-- No run changes what becomes of reports. -/
theorem run_sink (backend : Backend σ) (routine : Routine α) (service : Service σ) :
    (routine.run backend service).2.sink = service.sink := by
  rw [run_eq_trace]
  exact Service.noteAll_sink _ _

/-! ## Traces of composed routines -/

variable (backend : Backend σ) (options : CodecOptions)

/-- The trace of a composed routine is that of its first part, and behind a value that of the rest.
-/
theorem trace_bind (routine : Routine α) (next : α → Routine β) (state : σ) :
    (routine >>= next).trace backend options state =
      let first := routine.trace backend options state
      match first.outcome with
      | .done value => ((next value).trace backend options first.state).after first.events
      | .failed error => ⟨.failed error, first.state, first.events⟩
      | .aborted cause => ⟨.aborted cause, first.state, first.events⟩ := by
  change (routine.bind next).trace backend options state = _
  induction routine generalizing state with
  | done value => rfl
  | fail error => rfl
  | abort cause => rfl
  | call request step ih => exact ih _ _
  | options step ih => exact ih _ _
  | emit event step ih =>
    -- What is told first stands before all that the rest tells.
    rw [bind, trace, ih, trace]
    generalize step.trace backend options state = first
    obtain ⟨outcome, state, events⟩ := first
    cases outcome <;> simp [Trace.after]

/-- The trace of an attempt is that of its routine, with a failure as a value. -/
theorem trace_attempt (routine : Routine α) (state : σ) :
    routine.attempt.trace backend options state =
      let first := routine.trace backend options state
      match first.outcome with
      | .done value => ⟨.done (.ok value), first.state, first.events⟩
      | .failed error => ⟨.done (.error error), first.state, first.events⟩
      | .aborted cause => ⟨.aborted cause, first.state, first.events⟩ := by
  induction routine generalizing state with
  | done value => rfl
  | fail error => rfl
  | abort cause => rfl
  | call request step ih => exact ih _ _
  | options step ih => exact ih _ _
  | emit event step ih =>
    rw [attempt, trace, ih, trace]
    generalize step.trace backend options state = first
    obtain ⟨outcome, state, events⟩ := first
    cases outcome <;> rfl

/-- The entries of a value are told before the value is given. -/
theorem trace_ofLogged (logged : Logged α) (state : σ) :
    (ofLogged logged).trace backend options state =
      ⟨.done logged.value, state, logged.entries.map .log⟩ := by
  obtain ⟨entries, value⟩ := logged
  unfold ofLogged
  induction entries with
  | nil => rfl
  | cons entry entries ih =>
    rw [List.foldr_cons, trace, ih]
    rfl

/-- An outcome is its own trace. -/
theorem trace_ofOutcome (outcome : Outcome α) (state : σ) :
    (ofOutcome outcome).trace backend options state = ⟨outcome, state, []⟩ := by
  cases outcome <;> rfl

theorem trace_ofExcept (result : Except StoreError α) (state : σ) :
    (ofExcept result).trace backend options state = ⟨.ofExcept result, state, []⟩ :=
  trace_ofOutcome backend options _ state

/-- Asking the backend moves its state and tells nothing. -/
theorem trace_ask (request : Request) (state : σ) :
    (ask request).trace backend options state =
      ⟨.ofExcept (backend.perform request state).1, (backend.perform request state).2, []⟩ :=
  trace_ofExcept backend options _ _

theorem trace_upsert (slot : Slot) (document : Document) (state : σ) :
    (upsert slot document).trace backend options state =
      ⟨.ofExcept (backend.perform (.upsert slot document) state).1,
        (backend.perform (.upsert slot document) state).2, []⟩ :=
  trace_ask backend options (.upsert slot document) state

theorem trace_find (slot : Slot) (state : σ) :
    (find slot).trace backend options state =
      ⟨.ofExcept (backend.perform (.find slot) state).1,
        (backend.perform (.find slot) state).2, []⟩ :=
  trace_ask backend options (.find slot) state

theorem trace_count (slot : Slot) (state : σ) :
    (count slot).trace backend options state =
      ⟨.ofExcept (backend.perform (.count slot) state).1,
        (backend.perform (.count slot) state).2, []⟩ :=
  trace_ask backend options (.count slot) state

theorem trace_delete (slot : Slot) (state : σ) :
    (delete slot).trace backend options state =
      ⟨.ofExcept (backend.perform (.delete slot) state).1,
        (backend.perform (.delete slot) state).2, []⟩ :=
  trace_ask backend options (.delete slot) state

theorem trace_codec (state : σ) :
    codec.trace backend options state = ⟨.done options, state, []⟩ := rfl

theorem trace_pure (value : α) (state : σ) :
    (pure value : Routine α).trace backend options state = ⟨.done value, state, []⟩ := rfl

end Routine

/-- A settled routine reports a failure that is no configuration error and ends with the given
value; otherwise it is the routine itself. -/
theorem Facade.trace_settle {σ β : Type} (backend : Backend σ) (options : CodecOptions)
    (operation : String) (metadata : Metadata) (key : String) (fallback : β) (body : Routine β)
    (state : σ) :
    (settle operation metadata key fallback body).trace backend options state =
      let trace := body.trace backend options state
      match trace.outcome with
      | .failed error =>
        if error.isConfiguration then trace
        else ⟨.done fallback, trace.state, trace.events ++
          [.report ⟨operation, metadata.collection, key, metadata.typeName, error⟩]⟩
      | _ => trace := by
  rw [settle, Routine.trace_bind, Routine.trace_attempt]
  generalize body.trace backend options state = trace
  obtain ⟨outcome, state, events⟩ := trace
  cases outcome with
  | done value => simp [Routine.trace, Trace.after, pure]
  | aborted cause => rfl
  | failed error =>
    by_cases h : error.isConfiguration <;> simp [h, Routine.trace, Trace.after]

end KeyedStore
