import KeyedStore.Proofs.Storage.Operation

/-!
# How operations settle failures

An operation does what its steps do and writes to the log besides. If its steps fail it lets a
configuration error pass, and reports every other error under its own name and key.

- `exists_trace_routine`: an operation is its steps, settled, with some lines of the log;
- `run_error_policy`: how an operation ends and what it reports, by how its steps end.

## References

- SPEC_FULL.md, section 7, Propagation policy; section 10.6, `settle`
-/

namespace KeyedStore

/-! ## Settling -/

/-- A routine does what other steps do, and writes to the log besides. -/
def Routine.Follows {σ β : Type} (backend : Backend σ) (options : CodecOptions) (state : σ)
    (routine steps : Routine β) : Prop :=
  ∃ entries : List LogEntry, routine.trace backend options state =
    ⟨(steps.trace backend options state).outcome, (steps.trace backend options state).state,
      entries.map .log⟩

namespace Operation

variable {σ : Type} (backend : Backend σ) (options : CodecOptions) (state : σ)

/-- How an operation ends whose steps end in some way. -/
def settled (operation : Operation) : Outcome operation.Answer → Outcome operation.Answer
  | .failed error =>
    if error.isConfiguration then .failed error else .done operation.negative
  | .done answer => .done answer
  | .aborted cause => .aborted cause

/-- What an operation reports whose steps end in some way. -/
def reported (operation : Operation) : Outcome operation.Answer → List Report
  | .failed error =>
    if error.isConfiguration then []
    else [⟨operation.name, operation.declaration.collection,
      operation.key?.getD Facade.noKey, operation.declaration.typeName, error⟩]
  | .done _ | .aborted _ => []

/-- The trace of an operation whose steps end in some way, after some lines of the log. -/
def settledTrace (operation : Operation) (steps : Trace σ operation.Answer)
    (entries : List LogEntry) : Trace σ operation.Answer :=
  ⟨operation.settled steps.outcome, steps.state,
    entries.map .log ++ (operation.reported steps.outcome).map .report⟩

variable {backend options state}

/-- A settled routine that follows the steps of an operation is the operation. -/
theorem exists_trace_settle (operation : Operation) {metadata : Metadata}
    (hresolve : operation.declaration.resolve = .ok metadata)
    {body : Routine operation.Answer}
    (h : Routine.Follows backend options state body operation.steps) :
    ∃ entries, (Facade.settle operation.name metadata (operation.key?.getD Facade.noKey)
      operation.negative body).trace backend options state =
        operation.settledTrace (operation.steps.trace backend options state) entries := by
  obtain ⟨entries, htrace⟩ := h
  refine ⟨entries, ?_⟩
  rw [Facade.trace_settle, htrace, settledTrace]
  generalize (operation.steps.trace backend options state).outcome = outcome
  cases outcome with
  | done answer => simp [settled, reported]
  | aborted cause => simp [settled, reported]
  | failed error =>
    -- Only the kind of the error decides between passing it on and reporting it.
    by_cases hconfiguration : error.isConfiguration
    · simp [settled, reported, hconfiguration]
    · simp [settled, reported, hconfiguration, Declaration.eq_of_resolve hresolve]

/-- An operation on a type that is not sound ends before its first step. -/
theorem settledTrace_of_unresolved {operation : Operation} {error : StoreError}
    (hresolve : operation.declaration.resolve = .error error)
    (hsteps : operation.steps.trace backend options state = ⟨.failed error, state, []⟩) :
    operation.settledTrace (operation.steps.trace backend options state) [] =
      ⟨.failed error, state, []⟩ := by
  have hconfiguration := Declaration.isConfiguration_of_resolve hresolve
  simp [settledTrace, hsteps, settled, reported, hconfiguration]

/-! ### The steps of every operation -/

variable {α : Type}

/-- The steps of an operation whose declaration breaks a rule fail before anything else. -/
theorem trace_steps_of_unresolved {operation : Operation} {error : StoreError}
    (h : operation.declaration.resolve = .error error) :
    operation.steps.trace backend options state = ⟨.failed error, state, []⟩ := by
  cases operation with
  | store kind entity =>
    -- Storing finds the wrong declaration when it encodes, the others before they ask.
    have hencode : kind.encode options entity = .failed error := Kind.encode_of_unresolved h
    change (kind.storeSteps entity).trace backend options state = _
    simp only [Kind.storeSteps, Routine.trace_bind, Routine.trace_codec, Routine.trace_ofOutcome,
      hencode]
    rfl
  | load kind key | exists? kind key | delete kind key =>
    rw [declaration] at h
    simp only [steps, Kind.loadSteps, Kind.existsSteps, Kind.deleteSteps, h]
    rfl

end Operation

/-! ## The bodies of the operations -/

namespace Kind

open Routine

variable {σ α : Type} (backend : Backend σ) (options : CodecOptions) (state : σ)
  (kind : Kind α) {metadata : Metadata}

/-- Asking whether a slot is occupied follows the steps of finding out whether an entity is there.
-/
theorem follows_occupied (h : kind.declaration.resolve = .ok metadata) (key : String) :
    Follows backend options state (Facade.occupied ⟨metadata.collection, key⟩)
      (kind.existsSteps key) := by
  refine ⟨[], ?_⟩
  rw [existsSteps, h, Facade.occupied]
  simp only [trace_bind, trace_ofExcept, trace_count, Outcome.ofExcept]
  cases (backend.perform (.count ⟨metadata.collection, key⟩) state).1 with
  | error error => rfl
  | ok number => rfl

/-- Clearing a slot follows the steps of deleting an entity. -/
theorem follows_clear (h : kind.declaration.resolve = .ok metadata) (key : String) :
    Follows backend options state (Facade.clear ⟨metadata.collection, key⟩)
      (kind.deleteSteps key) := by
  unfold Follows
  rw [deleteSteps, h, Facade.clear]
  simp only [trace_bind, trace_ofExcept, trace_delete, Outcome.ofExcept]
  cases (backend.perform (.delete ⟨metadata.collection, key⟩) state).1 with
  | error error => exact ⟨[], rfl⟩
  | ok _ => exact ⟨[_], rfl⟩

/-- Whatever reads the document that is found, without a word, follows the steps of a load. -/
theorem follows_load (h : kind.declaration.resolve = .ok metadata) (key : String)
    {read : Document → Routine (Option α)}
    (hread : ∀ document state, (read document).trace backend options state =
      ⟨.ofExcept ((kind.decode options document key).map some), state, []⟩) :
    Follows backend options state
      (do
        match ← .find ⟨metadata.collection, key⟩ with
        | none => pure none
        | some document => read document)
      (kind.loadSteps key) := by
  refine ⟨[], ?_⟩
  rw [loadSteps, h]
  simp only [trace_bind, trace_ofExcept, trace_find, Outcome.ofExcept]
  cases (backend.perform (.find ⟨metadata.collection, key⟩) state).1 with
  | error error => rfl
  | ok found =>
    cases found with
    | none => rfl
    | some document =>
      -- The steps ask for the options even where the body does not, which tells nothing.
      simp only [hread, trace_bind, trace_codec, trace_ofExcept]
      cases kind.decode options document key <;> rfl

/-- Encoding an entity and putting its document follows the steps of storing it. -/
theorem follows_upsert {encoding : Routine Encoded} {entity : α} (entries : List LogEntry)
    (hencoding : encoding.trace backend options state =
      ⟨kind.encode options entity, state, entries.map .log⟩) (text : Encoded → String) :
    Follows backend options state
      (do
        let encoded ← encoding
        Routine.upsert ⟨encoded.collection, encoded.key⟩ encoded.document
        Facade.info (text encoded))
      (kind.storeSteps entity) := by
  unfold Follows
  rw [storeSteps]
  simp only [trace_bind, trace_codec, trace_ofOutcome, hencoding]
  cases kind.encode options entity with
  | failed error => exact ⟨entries, rfl⟩
  | aborted cause => exact ⟨entries, rfl⟩
  | done encoded =>
    simp only [trace_upsert, Outcome.ofExcept]
    cases (backend.perform
      (.upsert ⟨encoded.collection, encoded.key⟩ encoded.document) state).1 with
    | error error => exact ⟨entries, by simp [Trace.after]⟩
    | ok _ =>
      refine ⟨entries ++ [⟨.info, Facade.source, text encoded⟩], ?_⟩
      rw [List.map_append]
      rfl

end Kind

namespace Operation

variable {σ α : Type} (backend : Backend σ) (options : CodecOptions) (state : σ)
  {metadata : Metadata}

/-- Loading comes to its steps, settled, with some lines of the log. -/
theorem exists_trace_load {kind : Kind α} (hresolve : kind.declaration.resolve = .ok metadata)
    (key : String) :
    ∃ entries, (load kind key).routine.trace backend options state =
      (load kind key).settledTrace ((load kind key).steps.trace backend options state) entries := by
  cases kind with
  | structured kind =>
    have hread : ∀ document state, (do
        let options ← Routine.codec
        let entity ← Routine.ofExcept (Codec.decode kind options document key)
        pure (some entity)).trace backend options state =
          Trace.mk (.ofExcept ((Codec.decode kind options document key).map some)) state [] := by
      intro document state
      simp only [Routine.trace_bind, Routine.trace_codec, Routine.trace_ofExcept]
      cases Codec.decode kind options document key <;> rfl
    have hbody := exists_trace_settle (.load (.structured kind) key) hresolve
      (Kind.follows_load backend options state _ hresolve key hread)
    change kind.declaration.resolve = .ok metadata at hresolve
    simp only [routine, Kind.load, Facade.load, hresolve]
    exact hbody
  | binary granted kind =>
    have hread : ∀ document state, (do
        let entity ← Routine.ofExcept (Codec.decodeBinary kind document key)
        pure (some entity)).trace backend options state =
          Trace.mk (.ofExcept ((Codec.decodeBinary kind document key).map some)) state [] := by
      intro document state
      simp only [Routine.trace_bind, Routine.trace_ofExcept]
      cases Codec.decodeBinary kind document key <;> rfl
    have hbody := exists_trace_settle (.load (.binary granted kind) key) hresolve
      (Kind.follows_load backend options state _ hresolve key hread)
    change kind.declaration.resolve = .ok metadata at hresolve
    simp only [routine, Kind.load, Facade.loadBinary, hresolve]
    exact hbody

/-- Storing comes to its steps, settled, with some lines of the log. -/
theorem exists_trace_store {kind : Kind α} (hresolve : kind.declaration.resolve = .ok metadata)
    (entity : α) :
    ∃ entries, (store kind entity).routine.trace backend options state =
      (store kind entity).settledTrace ((store kind entity).steps.trace backend options state)
        entries := by
  cases kind with
  | structured kind =>
    have hencoding : (do
        let options ← Routine.codec
        let result ← Routine.ofLogged (Codec.encode kind options entity)
        Routine.ofExcept result).trace backend options state =
          ⟨.ofExcept (Codec.encode kind options entity).value, state,
            (Codec.encode kind options entity).entries.map .log⟩ := by
      simp [Routine.trace_bind, Routine.trace_codec, Routine.trace_ofLogged,
        Routine.trace_ofExcept, Trace.after]
    -- The warnings of the codec are written to the log before the document is put away.
    have hbody := exists_trace_settle (.store (.structured kind) entity) hresolve
      (Kind.follows_upsert backend options state (.structured kind) _ hencoding fun encoded =>
        "💾 [DataStorage] 저장 완료: collection=" ++ encoded.collection ++ ", key=" ++ encoded.key)
    simp only [Routine.bind_assoc] at hbody
    change kind.declaration.resolve = .ok metadata at hresolve
    simp only [routine, Kind.store, Facade.store, hresolve]
    exact hbody
  | binary granted kind =>
    have hencoding :=
      Routine.trace_ofOutcome backend options (Codec.encodeBinary granted kind entity) state
    have hbody := exists_trace_settle (.store (.binary granted kind) entity) hresolve
      (Kind.follows_upsert backend options state (.binary granted kind) [] hencoding
        fun encoded =>
          "💾 [DataStorage] 바이너리 저장 완료: collection=" ++ encoded.collection ++ ", key=" ++
            encoded.key ++ ", bytes=" ++ Text.decimal (kind.size entity).toNat)
    change kind.declaration.resolve = .ok metadata at hresolve
    simp only [routine, Kind.store, Facade.storeBinary, hresolve]
    exact hbody

/-- An operation is its steps, settled, with some lines of the log. -/
theorem exists_trace_routine (operation : Operation) :
    ∃ entries, operation.routine.trace backend options state =
      operation.settledTrace (operation.steps.trace backend options state) entries := by
  cases hresolve : operation.declaration.resolve with
  | error error =>
    -- The type is refused before anything is asked or written to the log.
    refine ⟨[], ?_⟩
    rw [settledTrace_of_unresolved hresolve (trace_steps_of_unresolved hresolve)]
    cases operation with
    | store kind _ | load kind _ | exists? kind _ | delete kind _ =>
      cases kind with
      | structured kind | binary _ kind =>
        change kind.declaration.resolve = .error error at hresolve
        simp only [routine, Kind.store, Kind.load, Kind.exists?, Kind.delete, Facade.store,
          Facade.storeBinary, Facade.load, Facade.loadBinary, Facade.exists?, Facade.existsBinary,
          Facade.delete, Facade.deleteBinary, hresolve]
        rfl
  | ok metadata =>
    cases operation with
    | store kind entity => exact exists_trace_store backend options state hresolve entity
    | load kind key => exact exists_trace_load backend options state hresolve key
    | exists? kind key =>
      have hbody := exists_trace_settle (.exists? kind key) hresolve
        (kind.follows_occupied backend options state hresolve key)
      cases kind with
      | structured kind | binary _ kind =>
        change kind.declaration.resolve = .ok metadata at hresolve
        simp only [routine, Kind.exists?, Facade.exists?, Facade.existsBinary, hresolve]
        exact hbody
    | delete kind key =>
      have hbody := exists_trace_settle (.delete kind key) hresolve
        (kind.follows_clear backend options state hresolve key)
      cases kind with
      | structured kind | binary _ kind =>
        change kind.declaration.resolve = .ok metadata at hresolve
        simp only [routine, Kind.delete, Facade.delete, Facade.deleteBinary, hresolve]
        exact hbody

/-- An operation ends as its steps do, settled. -/
theorem run_eq_settled (operation : Operation) (service : Service σ) :
    (operation.routine.run backend service).1 =
      operation.settled (operation.steps.run backend service).1 := by
  obtain ⟨entries, htrace⟩ :=
    exists_trace_routine backend service.options service.state operation
  rw [Routine.run_eq_trace, Routine.run_eq_trace, htrace]
  rfl

/-- An operation leaves the backend as its steps do. -/
theorem run_state_eq (operation : Operation) (service : Service σ) :
    (operation.routine.run backend service).2.state =
      (operation.steps.run backend service).2.state := by
  obtain ⟨entries, htrace⟩ :=
    exists_trace_routine backend service.options service.state operation
  rw [Routine.run_eq_trace, Routine.run_eq_trace, htrace, Service.noteAll_state,
    Service.noteAll_state]
  rfl

/-- The reports of a settled operation are those that it owes; the log holds no others. -/
theorem reports_settledTrace (operation : Operation) (steps : Trace σ operation.Answer)
    (entries : List LogEntry) :
    (operation.settledTrace steps entries).reports = operation.reported steps.outcome := by
  have hlog : (entries.map Event.log).filterMap Event.report? = [] := by
    rw [List.filterMap_map, List.filterMap_eq_nil_iff]
    exact fun _ _ => rfl
  have hreport : ∀ reports : List Report,
      (reports.map Event.report).filterMap Event.report? = reports := by
    intro reports
    rw [List.filterMap_map]
    exact List.filterMap_some
  rw [settledTrace, Trace.reports, List.filterMap_append, hlog, hreport, List.nil_append]

/-- An operation reports what becomes of its steps and nothing else. -/
theorem reports_eq_reported (operation : Operation) (service : Service σ) :
    operation.routine.reports backend service =
      operation.reported (operation.steps.run backend service).1 := by
  obtain ⟨entries, htrace⟩ :=
    exists_trace_routine backend service.options service.state operation
  rw [Routine.reports_eq, Routine.run_eq_trace, htrace, reports_settledTrace]

/-- What an operation comes to whose steps are known. -/
theorem run_of_trace_steps (operation : Operation) {service : Service σ} {start : σ}
    {steps : Trace σ operation.Answer} (hstate : service.state = start)
    (h : operation.steps.trace backend service.options start = steps) :
    (operation.routine.run backend service).1 = operation.settled steps.outcome ∧
      operation.routine.reports backend service = operation.reported steps.outcome ∧
      (operation.routine.run backend service).2.state = steps.state := by
  rw [run_eq_settled, reports_eq_reported, run_state_eq, Routine.run_eq_trace, hstate, h]
  exact ⟨rfl, rfl, Service.noteAll_state _ _⟩

/-- Only an operation on a sound type ends with a value. -/
theorem exists_resolve_of_run (operation : Operation) {service : Service σ}
    {answer : operation.Answer} (h : (operation.routine.run backend service).1 = .done answer) :
    ∃ metadata, operation.declaration.resolve = .ok metadata := by
  cases hresolve : operation.declaration.resolve with
  | ok metadata => exact ⟨metadata, rfl⟩
  | error error =>
    obtain ⟨hrun, -, -⟩ := run_of_trace_steps backend operation rfl
      (trace_steps_of_unresolved hresolve)
    rw [hrun, settled, if_pos (Declaration.isConfiguration_of_resolve hresolve)] at h
    exact absurd h (by simp)

/-! ## The error policy -/

/-- A store whose steps fail otherwise than by a configuration error is about the key of its
entity, which is not empty. -/
theorem exists_key_of_failed (operation : Operation) {error : StoreError}
    (h : (operation.steps.trace backend options state).outcome = .failed error)
    (herror : error.isConfiguration = false) :
    ∃ key, operation.key? = some key ∧ (operation.isStore = true → key ≠ "") := by
  cases operation with
  | load _ key | exists? _ key | delete _ key => exact ⟨key, rfl, by simp [isStore]⟩
  | store kind entity =>
    rcases kind.encode_cases options entity with
      ⟨other, hencode, hother⟩ | ⟨metadata, key, -, hkey, hne, -⟩
    · have hsteps : (kind.storeSteps entity).trace backend options state =
          ⟨.failed other, state, []⟩ := by
        simp only [Kind.storeSteps, Routine.trace_bind, Routine.trace_codec,
          Routine.trace_ofOutcome, hencode]
        rfl
      have hfailed : Outcome.failed other = .failed error :=
        (congrArg Trace.outcome hsteps).symm.trans h
      obtain rfl : other = error := Outcome.failed.inj hfailed
      rw [herror] at hother
      exact absurd hother (by simp)
    · exact ⟨key, hkey, fun _ => hne⟩

/-- The error policy of the store. Only configuration errors reach the caller. If the codec or the
backend fails otherwise, the operation ends with its negative value and there is exactly one report,
under the operation's own name, for the collection and the type of its entities, the key itself and
the error itself. In every other case there is no report. A collecting service is given what is
reported. -/
theorem run_error_policy (operation : Operation) (backend : Backend σ) (service : Service σ) :
    (∀ error, (operation.routine.run backend service).1 = .failed error →
      error.kind = .configuration) ∧
    (match (operation.steps.run backend service).1 with
      | .failed error =>
        error.kind = .configuration ∧
          (operation.routine.run backend service).1 = .failed error ∧
          operation.routine.reports backend service = [] ∨
        (error.kind = .serialization ∨ error.kind = .connectivity) ∧
          (operation.routine.run backend service).1 = .done operation.negative ∧
          ∃ key, operation.key? = some key ∧ (operation.isStore = true → key ≠ "") ∧
            operation.routine.reports backend service =
              [⟨operation.name, operation.declaration.collection, key,
                operation.declaration.typeName, error⟩]
      | .done answer =>
        (operation.routine.run backend service).1 = .done answer ∧
          operation.routine.reports backend service = []
      | .aborted cause =>
        (operation.routine.run backend service).1 = .aborted cause ∧
          operation.routine.reports backend service = []) ∧
    (service.sink = .collect → (operation.routine.run backend service).2.reports =
      service.reports ++ operation.routine.reports backend service) := by
  have hrun := run_eq_settled backend operation service
  have hreports := reports_eq_reported backend operation service
  refine ⟨fun error herror => ?_, ?_, fun hsink => ?_⟩
  · -- Of the errors of the steps only configuration errors are left after settling.
    rw [hrun] at herror
    cases hsteps : (operation.steps.run backend service).1 with
    | done answer => simp [hsteps, settled] at herror
    | aborted cause => simp [hsteps, settled] at herror
    | failed other =>
      rw [hsteps, settled] at herror
      split_ifs at herror with hother
      rw [← Outcome.failed.inj herror]
      exact of_decide_eq_true hother
  · cases hsteps : (operation.steps.run backend service).1 with
    | done answer => exact ⟨by rw [hrun, hsteps, settled], by rw [hreports, hsteps, reported]⟩
    | aborted cause => exact ⟨by rw [hrun, hsteps, settled], by rw [hreports, hsteps, reported]⟩
    | failed error =>
      rw [hsteps, settled] at hrun
      rw [hsteps, reported] at hreports
      cases herror : error.isConfiguration with
      | true =>
        rw [if_pos herror] at hrun hreports
        exact .inl ⟨of_decide_eq_true herror, hrun, hreports⟩
      | false =>
        rw [if_neg (by simp [herror])] at hrun hreports
        -- The codec has accepted the key before anything else could go wrong.
        have hoperation : (operation.steps.trace backend service.options service.state).outcome =
            .failed error := by
          rw [← hsteps, Routine.run_eq_trace]
        obtain ⟨key, hkey, hne⟩ := exists_key_of_failed _ _ _ operation hoperation herror
        rw [hkey, Option.getD_some] at hreports
        refine .inr ⟨?_, hrun, key, hkey, hne, hreports⟩
        have hkind : error.kind ≠ .configuration := of_decide_eq_false herror
        cases hcase : error.kind with
        | configuration => exact absurd hcase hkind
        | serialization => exact .inl rfl
        | connectivity => exact .inr rfl
  · exact Routine.run_reports_of_collect backend operation.routine hsink

end Operation

end KeyedStore
