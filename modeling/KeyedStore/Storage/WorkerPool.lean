import KeyedStore.Storage.Service

/-!
# The pool of workers

Operations of other threads are run by a pool with a fixed number of permits. A task waits for a
permit, is queued with it, runs, and gives it back when it ends in whatever way. A caller may lose
interest: a task that still waits is then gone, but one that has its permit keeps it to its end.
When the program shuts down, tasks that are queued are dropped unrun.

## References

- SPEC_FULL.md, sections 5 and 10.6: `WorkerPool` with `new`, `capacity`, `available`, `execute`,
  and the operations that end in `_async`
-/

namespace KeyedStore

/-- How far a task has come. -/
inductive TaskPhase where
  /-- It has no permit yet. -/
  | waiting
  /-- It has a permit and is to run. -/
  | queued
  /-- It runs. -/
  | running
deriving DecidableEq

/-- A pool of workers with its tasks. -/
structure WorkerPool where
  /-- The number of permits. -/
  capacity : Nat
  /-- The tasks that have not ended, each under its number. -/
  tasks : List (Nat × TaskPhase)

/-- What can happen in a pool, each to the task of a number. -/
inductive PoolEvent where
  /-- A task is handed in. -/
  | submit (task : Nat)
  /-- A task that waits gets a permit. -/
  | acquire (task : Nat)
  /-- A task that is queued begins to run. -/
  | start (task : Nat)
  /-- A task that runs comes to its end. -/
  | finish (task : Nat)
  /-- The caller of a task loses interest. -/
  | abandon (task : Nat)
  /-- A task that is queued is dropped. -/
  | cancel (task : Nat)

namespace WorkerPool

/-- A pool of at least one permit, without tasks. -/
def ofCapacity (capacity : Nat) : WorkerPool :=
  ⟨max capacity 1, []⟩

/-- The greatest number of permits that a pool can have. -/
def maxCapacity : Nat := 2305843009213693951

/-- A pool of at least one permit; asking for too many permits is a defect. -/
def make (capacity : Nat) : Outcome WorkerPool :=
  if max capacity 1 ≤ maxCapacity then .done (ofCapacity capacity) else .aborted .tooManyPermits

/-- Whether a task of a phase holds a permit. -/
def holdsPermit : TaskPhase → Bool
  | .waiting => false
  | .queued => true
  | .running => true

/-- The number of permits that tasks hold. -/
def held (pool : WorkerPool) : Nat :=
  (pool.tasks.filter fun task => holdsPermit task.2).length

/-- The number of permits that are free. -/
def available (pool : WorkerPool) : Nat :=
  pool.capacity - pool.held

/-- The phase of a task. -/
def phase? (pool : WorkerPool) (task : Nat) : Option TaskPhase :=
  Pairs.get? task pool.tasks

/-- Move a task to a phase. -/
def move (pool : WorkerPool) (task : Nat) (phase : TaskPhase) : WorkerPool :=
  { pool with tasks := Pairs.insert task phase pool.tasks }

/-- Take a task out of the pool. -/
def drop (pool : WorkerPool) (task : Nat) : WorkerPool :=
  { pool with tasks := Pairs.erase task pool.tasks }

/-- The pool after an event, if the event can happen. -/
def step? (pool : WorkerPool) : PoolEvent → Option WorkerPool
  | .submit task => if pool.phase? task = none then some (pool.move task .waiting) else none
  | .acquire task =>
    if pool.phase? task = some .waiting ∧ 0 < pool.available then some (pool.move task .queued)
    else none
  | .start task => if pool.phase? task = some .queued then some (pool.move task .running) else none
  | .finish task => if pool.phase? task = some .running then some (pool.drop task) else none
  | .abandon task =>
    match pool.phase? task with
    | none => none
    | some .waiting => some (pool.drop task)
    -- A task with a permit keeps it, whoever waits for its end.
    | some _ => some pool
  | .cancel task => if pool.phase? task = some .queued then some (pool.drop task) else none

/-- How the life of a task in the pool ends. -/
inductive Ending where
  /-- It runs to its end. -/
  | ran
  /-- It is dropped unrun. -/
  | cancelled
deriving DecidableEq

/-- Hand one task to a pool without other tasks and wait for it. The body is told how many permits
are free while it runs. The caller of a task that is dropped gets a connectivity error. -/
def execute {α : Type} (pool : WorkerPool) (ending : Ending) (body : Nat → Outcome α) :
    Outcome α × WorkerPool :=
  -- The pool is idle, so there is a permit for the task at once.
  let task := pool.tasks.length
  let queued := (pool.move task .waiting).move task .queued
  match ending with
  | .ran =>
    let running := queued.move task .running
    (body running.available, running.drop task)
  | .cancelled => (.failed .taskCancelled, queued.drop task)

end WorkerPool

/-- Carry a routine out as a task of the pool. A task that runs is the routine carried out without a
break; a task that is dropped before it runs does nothing. -/
def Routine.runAsync {σ α : Type} (backend : Backend σ) (ending : WorkerPool.Ending)
    (routine : Routine α) (service : Service σ) : Outcome α × Service σ :=
  match ending with
  | .ran => routine.run backend service
  | .cancelled => (.failed .taskCancelled, service)

end KeyedStore
