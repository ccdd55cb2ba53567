import KeyedStore.Entity.Registry
import KeyedStore.Server.ConnectionString
import KeyedStore.Settings.Basic
import KeyedStore.Storage.Facade
import KeyedStore.Storage.Service
import KeyedStore.Storage.WorkerPool

/-!
# Connecting

Opening the store as the settings say. The registrations are checked first, whatever the backend.
The memory of the program can always be opened. Of a server this library knows only how to find out
that it is not there: a connection string that names none, or a server that does not answer.

## References

- SPEC_FULL.md, sections 10.5 and 10.6: `connect` of the database and of the service
-/

namespace KeyedStore

/-- An open store on the memory of the program. -/
structure Connection where
  /-- The pool for operations of other threads. -/
  workers : WorkerPool
  /-- The options of the codec. -/
  options : CodecOptions

namespace Connection

/-- The entry about opening the memory of the program. -/
def memoryEntry : LogEntry :=
  ⟨.info, Facade.source, "🧪 메모리 저장소를 사용합니다 (프로세스 종료 시 데이터 소멸)"⟩

/-- The store that needs no settings. -/
def inMemory : Connection :=
  ⟨.ofCapacity 16, {}⟩

/-- The failure to reach the server that a connection string names. -/
def serverFailure (connectionString : String) : StoreError :=
  if ConnectionString.namesServers connectionString then .noAnswer else .noClient

/-- The store on the memory of the program, as the settings say. -/
def ofSettings (settings : Settings) : Outcome Connection :=
  match WorkerPool.make settings.workerPoolSize with
  | .done workers => .done ⟨workers, { diagnosticLimit := settings.diagnosticLimit }⟩
  | .failed error => .failed error
  | .aborted cause => .aborted cause

/-- Open the store. -/
def connect (registrations : List Registration) (settings : Settings) :
    Logged (Outcome Connection) :=
  -- A wrong registration is found before any backend is asked for.
  let checked := Registry.validate registrations
  match checked.value, settings.backend with
  | .error error, _ => ⟨checked.entries, .failed error⟩
  | .ok _, .mongo => ⟨checked.entries, .failed (serverFailure settings.connectionString)⟩
  | .ok _, .memory => ⟨checked.entries ++ [memoryEntry], ofSettings settings⟩

end Connection

end KeyedStore
