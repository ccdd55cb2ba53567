import KeyedStore.Application.Tour
import KeyedStore.Catalogue
import KeyedStore.Repository.Memory
import KeyedStore.Settings.EnvFile
import KeyedStore.Settings.LogFilter

/-!
# The application

The program around the store. It reads the file of variables that its environment asks for, opens
the store, takes the tour and closes the store. All that it writes are lines of its log, as far as
the filter shows them, and at the end a line about the error that has stopped it.

## References

- SPEC_FULL.md, section 10.8: the start of the program, its log and its file of variables (`main`,
  `load_env_file`, `init_logging`, `initialize_storage`)
-/

namespace KeyedStore.Application

/-- What the program finds around it beside its settings. -/
structure Host where
  /-- The most bytes that memory grants at once. -/
  granted : Nat
  /-- What the libraries say about an error in words of their own. -/
  words : StoreError → ErrorWords

/-- What a run of the program leaves behind. -/
structure Run where
  /-- The exit code. -/
  exitCode : Nat
  /-- The lines that were written, none of them with a line break in it. -/
  lines : List String

/-- The environment after the file of variables. -/
def settle (environment : Environment) (fileText : Option String) : Environment :=
  match fileText with
  | some text => EnvFile.load environment text
  | none => environment

/-- Open the store, with the entries about it. -/
def opening (host : Host) (settings : Settings) : Logged (Outcome Connection) :=
  let connected := Connection.connect Catalogue.application settings
  let before := [Tour.entry .info "🚀 엔티티 저장 계층 시작중...",
    Tour.entry .info ("📡 저장소 연결 중... (backend=" ++ settings.backend.name ++ ")")]
  let after := match connected.value with
    | .failed error =>
      [Tour.entry .error ("❌ 저장소 초기화 실패: " ++ error.message (host.words error))]
    | _ => []
  ⟨before ++ connected.entries ++ after, connected.value⟩

/-- Take the tour on an open store and close it. -/
def tour (host : Host) (cast : Tour.Cast) (connection : Connection) : Logged (Outcome Unit) :=
  let service := { Service.on Memory.fresh (.log host.words) with options := connection.options }
  let (outcome, service) := (Tour.whole host.granted cast).run Memory.backend service
  match outcome with
  | .done () =>
    let closed := service.teardown Memory.backend
    ⟨closed.log ++ [Tour.entry .info "👋 저장 계층 종료"], outcome⟩
  | _ => ⟨service.log, outcome⟩

/-- The entries of a run and how it ends. -/
def entries (host : Host) (settings : Settings) (cast : Tour.Cast) : Logged (Outcome Unit) :=
  let opened := opening host settings
  match opened.value with
  | .failed error => ⟨opened.entries, .failed error⟩
  | .aborted cause => ⟨opened.entries, .aborted cause⟩
  | .done connection =>
    let toured := tour host cast connection
    ⟨opened.entries ++ toured.entries, toured.value⟩

/-- The line about the error that has stopped the program. -/
def lastLine (words : ErrorWords) (error : StoreError) : String :=
  "Error: " ++ error.kind.label ++ "(" ++ Text.quoted (error.text words) ++ ")"

/-- The exit code of a program that has been cut short. -/
def exitCode : Abort → Nat
  -- Where memory is refused the process is killed, and there is nothing left to unwind.
  | .allocationRefused _ => 134
  | _ => 101

/-- The lines of messages, each of which may have several. -/
def linesOf (messages : List String) : List String :=
  messages.flatMap fun message => (Text.lines message.toList).map String.ofList

/-- Run the program. -/
def run (host : Host) (environment : Environment) (fileText : Option String)
    (cast : Tour.Cast) : Run :=
  let environment := settle environment fileText
  let (filter, complaints) := LogFilter.ofEnvironment environment
  let told := entries host (.ofEnvironment environment) cast
  -- Complaints about the filter come before the log, which is opened with it.
  let before := complaints ++ (told.entries.filter filter.shows).map LogEntry.line
  match told.value with
  | .done () => ⟨0, linesOf before⟩
  | .failed error => ⟨1, linesOf (before ++ [lastLine (host.words error) error])⟩
  | .aborted cause => ⟨exitCode cause, linesOf (before ++ [cause.message])⟩

end KeyedStore.Application
