import KeyedStore.Storage.Routine

/-!
# The state of the store

Everything that an operation can find and change: the documents, the options of the codec, and what
has been told to the outside.

## References

- SPEC_FULL.md, section 10.6: `DataStorageService`, `ErrorSink`, `OperationContext`, `reset_codec`
-/

namespace KeyedStore

/-- What becomes of reports. -/
inductive Sink where
  /-- They are collected. -/
  | collect
  /-- They are written to the log, each with what the libraries say about its error. -/
  | log (words : StoreError → ErrorWords)

/-- The state of the store, on a backend with states of type `σ`. -/
structure Service (σ : Type) where
  /-- The state of the backend. -/
  state : σ
  /-- The options of the codec. -/
  options : CodecOptions
  /-- What becomes of reports. -/
  sink : Sink
  /-- The reports that have been collected. -/
  reports : List Report
  /-- The log. -/
  log : List LogEntry

/-- The part of the program that writes reports to the log. -/
def Report.source : String := "entity_datastore::services::storage::error_sink"

/-- A report as a line of the log. -/
def Report.entry (words : ErrorWords) (report : Report) : LogEntry :=
  ⟨.error, Report.source, "[DataStorage] " ++ report.operation ++ " 실패 (" ++
    report.error.kind.name ++ "): collection=" ++ report.collection ++ ", key=" ++ report.key ++
    ", type=" ++ report.typeName ++ ": " ++ report.error.message words⟩

namespace Service

variable {σ α : Type}

/-- The store on a backend, with the usual options and nothing told yet. -/
def on (state : σ) (sink : Sink) : Service σ :=
  ⟨state, {}, sink, [], []⟩

/-- Write entries to the log. -/
def logAll (service : Service σ) (entries : List LogEntry) : Service σ :=
  { service with log := service.log ++ entries }

/-- Take note of what a routine tells. -/
def note (service : Service σ) : Event → Service σ
  | .log entry => service.logAll [entry]
  | .report report =>
    match service.sink with
    | .collect => { service with reports := service.reports ++ [report] }
    | .log words => service.logAll [report.entry (words report.error)]

/-- Change the options of the codec. -/
def resetCodec (service : Service σ) (options : CodecOptions) : Service σ :=
  { service with options }

/-- Close the backend. -/
def teardown (backend : Backend σ) (service : Service σ) : Service σ :=
  let closed := backend.teardown service.state
  { service with state := closed.value }.logAll closed.entries

end Service

namespace Routine

variable {σ α : Type}

/-- Take the first step of a routine. A routine that has ended stays as it is. -/
def step (backend : Backend σ) : Routine α → Service σ → Routine α × Service σ
  | .call request next, service =>
    let (answer, state) := backend.perform request service.state
    (next answer, { service with state })
  | .options next, service => (next service.options, service)
  | .emit event next, service => (next, service.note event)
  | routine, service => (routine, service)

/-- Carry a routine out to its end. -/
def run (backend : Backend σ) : Routine α → Service σ → Outcome α × Service σ
  | .done value, service => (.done value, service)
  | .fail error, service => (.failed error, service)
  | .abort cause, service => (.aborted cause, service)
  | .call request next, service =>
    let (answer, state) := backend.perform request service.state
    run backend (next answer) { service with state }
  | .options next, service => run backend (next service.options) service
  | .emit event next, service => run backend next (service.note event)

end Routine

end KeyedStore
