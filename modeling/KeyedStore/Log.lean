/-!
# Log entries

A line of the log before it is written: how serious it is, which part of the program it is from,
and what it says. `Logged` is a value with the entries written on the way to it.

## References

- SPEC_FULL.md, section 10.8, Logging
-/

namespace KeyedStore

/-- How serious an entry is. -/
inductive LogLevel where
  /-- Something failed. -/
  | error
  /-- Something is doubtful. -/
  | warn
  /-- Something was done. -/
  | info
  /-- How it was done. -/
  | debug
  /-- Every step of it. -/
  | trace
deriving DecidableEq

namespace LogLevel

/-- The name of a level. -/
def name : LogLevel → String
  | .error => "ERROR"
  | .warn => "WARN"
  | .info => "INFO"
  | .debug => "DEBUG"
  | .trace => "TRACE"

/-- How much a log shows that stops at a level: 1 for errors only, 5 for everything. -/
def verbosity : LogLevel → Nat
  | .error => 1
  | .warn => 2
  | .info => 3
  | .debug => 4
  | .trace => 5

end LogLevel

/-- A line of the log. -/
structure LogEntry where
  /-- How serious it is. -/
  level : LogLevel
  /-- The part of the program that writes it, as a path. -/
  source : String
  /-- What it says. -/
  message : String

namespace LogEntry

/-- The level and the message. -/
def brief (entry : LogEntry) : String :=
  entry.level.name ++ " " ++ entry.message

/-- The level, the source and the message. -/
def line (entry : LogEntry) : String :=
  entry.level.name ++ " " ++ entry.source ++ ": " ++ entry.message

end LogEntry

/-- A value with the entries written on the way to it. -/
structure Logged (α : Type) where
  /-- The entries, in order. -/
  entries : List LogEntry
  /-- The value. -/
  value : α

end KeyedStore
