import KeyedStore.NameMap
import KeyedStore.Text.Basic
import KeyedStore.Text.Digits

/-!
# Settings

What the store is connected to and how large it may grow, as the environment says it. A variable
that is not set, and a number that is not one or is out of range, leave the usual value in place.
Blanks around a value count for nothing where a word or a number is wanted.

## References

- SPEC_FULL.md, section 10.8, Configuration: `from_env`, `parse_worker_pool_size`,
  `parse_diagnostic_limit`, `StorageBackendKind`
-/

namespace KeyedStore

/-- The variables of an environment with their values. -/
abbrev Environment := NameMap String

/-- The two sorts of backends. -/
inductive BackendKind where
  /-- A server. -/
  | mongo
  /-- The memory of the program. -/
  | memory
deriving DecidableEq

namespace BackendKind

/-- The name of a sort of backends. -/
def name : BackendKind → String
  | .mongo => "Mongo"
  | .memory => "Memory"

/-- The sort of backends that a text names, in letters of any case; every unknown text names the
server. -/
def ofText (text : String) : BackendKind :=
  let word := String.ofList (Text.lower (Text.trim text.toList))
  if word = "memory" ∨ word = "in-memory" ∨ word = "mem" then .memory else .mongo

end BackendKind

/-- The settings of the store. -/
structure Settings where
  /-- The sort of backends. -/
  backend : BackendKind := .mongo
  /-- How to reach the server. -/
  connectionString : String := "mongodb://mongo:27017"
  /-- The name of the database on the server. -/
  databaseName : String := "mineplex"
  /-- How many operations of other threads run at once. -/
  workerPoolSize : Nat := 16
  /-- How many characters of a document an error may quote. -/
  diagnosticLimit : Nat := 500

namespace Settings

/-- The number of 64 bits that a text is, without the blanks around it. -/
def number? (text : String) : Option UInt64 :=
  Text.unsignedWord? (Text.trim text.toList)

/-- The number that a text names, if it is an allowed one, or else the usual one. -/
def numberOr (usual : UInt64) (allowed : UInt64 → Bool) (text : Option String) : Nat :=
  (((text.bind number?).filter allowed).getD usual).toNat

/-- The size of the pool of workers that a text names: between 1 and 256, usually 16. -/
def poolSizeOf : Option String → Nat :=
  numberOr 16 fun size => 1 ≤ size && size ≤ 256

/-- The limit of diagnostics that a text names: any but zero, usually 500. -/
def diagnosticLimitOf : Option String → Nat :=
  numberOr 500 fun limit => 0 < limit

/-- The settings that an environment says. -/
def ofEnvironment (environment : Environment) : Settings where
  backend := ((environment.get? "DATASTORE_BACKEND").map BackendKind.ofText).getD .mongo
  connectionString :=
    ((environment.get? "DATASTORE_CONNECTION_STRING").or
      (environment.get? "MONGODB_URI")).getD "mongodb://mongo:27017"
  databaseName :=
    ((environment.get? "DATASTORE_DATABASE").or (environment.get? "DATABASE_NAME")).getD "mineplex"
  workerPoolSize := poolSizeOf (environment.get? "DATASTORE_WORKER_POOL_SIZE")
  diagnosticLimit := diagnosticLimitOf (environment.get? "DATASTORE_DIAGNOSTIC_LIMIT")

end Settings

end KeyedStore
