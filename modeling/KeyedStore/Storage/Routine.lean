import KeyedStore.Codec.Options
import KeyedStore.Repository.Backend

/-!
# Routines

The operations of the store as sequences of steps. A routine asks the backend, reads the options of
the codec, writes to the log and reports failures, one step at a time, so that the steps of several
routines can be interleaved in any order. `Routine.run` carries one routine out without a break.

A failure ends a routine, unless `Routine.attempt` makes a value of it.

## References

- SPEC_FULL.md, section 5, the steps of operations; sections 4.3 and 4.4, what an operation asks and
  tells
-/

namespace KeyedStore

/-- A failure that an operation has turned into a negative result. -/
structure Report where
  /-- The name of the operation. -/
  operation : String
  /-- The collection that it was about. -/
  collection : String
  /-- The key that it was about. -/
  key : String
  /-- The type of entities that it was about. -/
  typeName : String
  /-- What failed. -/
  error : StoreError

/-- What a routine tells the outside. -/
inductive Event where
  /-- A line of the log. -/
  | log (entry : LogEntry)
  /-- A failure. -/
  | report (report : Report)

/-- A sequence of steps that ends with a value, with an error or cut short. -/
inductive Routine (α : Type) where
  /-- The end, with a value. -/
  | done (value : α)
  /-- The end, with an error. -/
  | fail (error : StoreError)
  /-- The end, cut short. -/
  | abort (cause : Abort)
  /-- Ask the backend and go on from its answer. -/
  | call (request : Request) (next : Except StoreError request.Answer → Routine α)
  /-- Read the options of the codec. -/
  | options (next : CodecOptions → Routine α)
  /-- Tell the outside something. -/
  | emit (event : Event) (next : Routine α)

namespace Routine

variable {α β : Type}

/-- Go on from the value of a routine. -/
def bind : Routine α → (α → Routine β) → Routine β
  | .done value, next => next value
  | .fail error, _ => .fail error
  | .abort cause, _ => .abort cause
  | .call request step, next => .call request fun answer => (step answer).bind next
  | .options step, next => .options fun options => (step options).bind next
  | .emit event step, next => .emit event (step.bind next)

/-- Routines are composed by `bind`. -/
instance : Monad Routine where
  pure := .done
  bind := bind

/-- The routine whose failures are values. -/
def attempt : Routine α → Routine (Except StoreError α)
  | .done value => .done (.ok value)
  | .fail error => .done (.error error)
  | .abort cause => .abort cause
  | .call request step => .call request fun answer => (step answer).attempt
  | .options step => .options fun options => (step options).attempt
  | .emit event step => .emit event step.attempt

/-- The routine that takes no step. -/
def ofOutcome : Outcome α → Routine α
  | .done value => .done value
  | .failed error => .fail error
  | .aborted cause => .abort cause

/-- The routine that takes no step and cannot be cut short. -/
def ofExcept (result : Except StoreError α) : Routine α :=
  ofOutcome (Outcome.ofExcept result)

/-- Ask the backend; an error of the backend is a failure. -/
def ask (request : Request) : Routine request.Answer :=
  .call request ofExcept

/-- Put a document into a slot. -/
def upsert (slot : Slot) (document : Document) : Routine Unit :=
  ask (.upsert slot document)

/-- The document in a slot. -/
def find (slot : Slot) : Routine (Option Document) :=
  ask (.find slot)

/-- The number of documents in a slot. -/
def count (slot : Slot) : Routine Nat :=
  ask (.count slot)

/-- Empty a slot. -/
def delete (slot : Slot) : Routine Unit :=
  ask (.delete slot)

/-- Read the options of the codec. -/
def codec : Routine CodecOptions :=
  .options .done

/-- Write a line to the log. -/
def log (entry : LogEntry) : Routine Unit :=
  .emit (.log entry) (.done ())

/-- Write the entries of a value to the log. -/
def ofLogged (logged : Logged α) : Routine α :=
  logged.entries.foldr (fun entry next => .emit (.log entry) next) (.done logged.value)

end Routine

end KeyedStore
