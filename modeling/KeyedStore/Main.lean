import KeyedStore.Application.Basic

/-!
# The command

Runs the application in the environment and the folder of the process and writes its lines to the
standard error stream.

## References

- SPEC_FULL.md, section 10.8: the command `main`
-/

namespace KeyedStore.Command

/-- The variables that the program reads. -/
def variableNames : List String :=
  ["PROFILE", "RUST_LOG", "DATASTORE_BACKEND", "DATASTORE_CONNECTION_STRING", "MONGODB_URI",
    "DATASTORE_DATABASE", "DATABASE_NAME", "DATASTORE_WORKER_POOL_SIZE",
    "DATASTORE_DIAGNOSTIC_LIMIT"]

/-- The variables that are set, with their values. -/
def readEnvironment : IO Environment := do
  let mut environment : Environment := .empty
  for name in variableNames do
    if let some value ← IO.getEnv name then
      environment := environment.insert name value
  return environment

/-- The text of the nearest file of a name, at most so many folders up. -/
def readNearest (name path : String) : Nat → IO (Option String)
  | 0 => return none
  | folders + 1 => do
    try
      return some (← IO.FS.readFile (path ++ name))
    catch _ =>
      readNearest name ("../" ++ path) folders

/-- A random name: thirty-two digits in five groups. -/
def freshName : IO String := do
  let bytes ← IO.getRandomBytes 16
  let digits := Text.hexOfBytes bytes.toList
  let group (start length : Nat) := String.ofList ((digits.drop start).take length)
  return String.intercalate "-" [group 0 8, group 8 4, "4" ++ group 13 3, "a" ++ group 17 3,
    group 20 12]

/-- Memory grants whatever an address can span, and the libraries keep to these words. -/
def host : Application.Host where
  granted := Codec.maxReservation
  words _ :=
    { badInstant := "not an instant", notJson := "not a JSON text", place := "",
      taskCancelled := "task was cancelled", noClient := "no server is named",
      noAnswer := "no server answers" }

/-- Run the application once; the result is its exit code. -/
def runOnce : IO UInt32 := do
  let environment ← readEnvironment
  let fileText ← readNearest (EnvFile.nameFor environment) "" 64
  let player ← freshName
  let others ← (List.range 4).mapM fun _ => freshName
  let cast : Tour.Cast := ⟨player, others, ← freshName, ← freshName, ← freshName⟩
  let run := Application.run host environment fileText cast
  for line in run.lines do
    IO.eprintln line
  return UInt32.ofNat run.exitCode

end KeyedStore.Command

/-- The command is one run of the application. -/
def main : IO UInt32 :=
  KeyedStore.Command.runOnce
