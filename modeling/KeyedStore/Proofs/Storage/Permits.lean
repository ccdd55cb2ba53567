import KeyedStore.Proofs.Storage.Errands
import Mathlib.Logic.Function.Basic

/-!
# Permits of the pool

The pool of workers has a semaphore, which counts its permits and knows nothing of tasks. A permit
that it has given away is first with the caller, then with the body that the caller hands over, and
comes back when the body is gone: because it has come to its end in whatever way, or because it was
dropped unrun. The caller may lose interest at every point where it waits. A caller who is still to
hand its body over takes the permit back with it; one who has done so leaves it with the body.

- `Turnstile.Step`: what callers, workers and the end of the program can do;
- `Sound.moved`, `Sound.dropped`, `Sound.turned`: what is done to one call and to its permit;
- `Sound.step`, `Sound.run`: no permit is lost, and none is given back twice;
- `Step.follows`: the tasks behind the semaphore are those of a pool;
- `Accounts`, `permits_conserved`: the permits at every point of every run.

## References

- SPEC_FULL.md, section 10.6, the permits of `WorkerPool`
-/

namespace KeyedStore

/-! ## Permits of tasks -/

namespace WorkerPool

variable {pool : WorkerPool} {task : Nat}

/-- The number of permits of a task, by its phase. A task that is not there has none. -/
def permits : Option TaskPhase → Nat
  | some .queued | some .running => 1
  | some .waiting | none => 0

/-- A task has one permit in the phases that hold one, and none in the others. -/
theorem permits_some (phase : TaskPhase) :
    permits (some phase) = if holdsPermit phase then 1 else 0 := by
  cases phase <;> rfl

/-- A task that is moved exchanges the permits of its old phase for those of the new one. -/
theorem held_move (pool : WorkerPool) (task : Nat) (phase : TaskPhase) :
    (pool.move task phase).held + permits (pool.phase? task) =
      pool.held + permits (some phase) := by
  obtain ⟨capacity, tasks⟩ := pool
  simp only [held, move, phase?]
  induction tasks with
  | nil =>
    rw [Pairs.insert, Pairs.get?, permits_some, List.filter_singleton]
    cases holdsPermit phase <;> rfl
  | cons first tasks ih =>
    obtain ⟨other, found⟩ := first
    rw [Pairs.insert, Pairs.get?]
    split_ifs with hother
    · rw [permits_some, permits_some, List.filter_cons, List.filter_cons]
      -- The task gives up the permit of its old phase and takes that of the new one.
      cases holdsPermit phase <;> cases holdsPermit found <;> simp
    · -- Another task stands in front and keeps what it has.
      rw [List.filter_cons, List.filter_cons]
      cases holdsPermit found <;> simp <;> omega

/-- A task that is taken out of the pool leaves its permits behind. -/
theorem held_drop (pool : WorkerPool) (task : Nat) :
    (pool.drop task).held + permits (pool.phase? task) = pool.held := by
  obtain ⟨capacity, tasks⟩ := pool
  simp only [held, drop, phase?]
  induction tasks with
  | nil => rfl
  | cons first tasks ih =>
    obtain ⟨other, found⟩ := first
    rw [Pairs.erase, Pairs.get?]
    split_ifs with hother
    · rw [permits_some, List.filter_cons]
      -- The task that is dropped stands in front.
      cases holdsPermit found <;> simp
    · rw [List.filter_cons, List.filter_cons]
      cases holdsPermit found <;> simp <;> omega

/-- A task that is dropped is not there any more. -/
theorem phase?_drop_self (h : Pairs.Distinct pool.tasks) (task : Nat) :
    (pool.drop task).phase? task = none :=
  Pairs.get?_erase_self h task

/-- If no task holds a permit, none is held. -/
theorem held_eq_zero (h : Pairs.Distinct pool.tasks)
    (hnone : ∀ task, permits (pool.phase? task) = 0) : pool.held = 0 := by
  rw [held, List.length_eq_zero_iff, List.filter_eq_nil_iff]
  rintro ⟨task, phase⟩ hmem
  have hphase : pool.phase? task = some phase := (Pairs.get?_eq_some_iff h).mpr hmem
  have hpermits := hnone task
  rw [hphase, permits_some] at hpermits
  simpa using hpermits

/-- The number of tasks that run. -/
def running (pool : WorkerPool) : Nat :=
  (pool.tasks.filter fun task => task.2 = .running).length

/-- Every task that runs holds a permit. -/
theorem running_le_held (pool : WorkerPool) : pool.running ≤ pool.held := by
  refine List.Sublist.length_le (List.monotone_filter_right _ ?_)
  rintro ⟨task, phase⟩ hrunning
  obtain rfl : phase = .running := by simpa using hrunning
  rfl

/-- A pool that has come about from another one by events. -/
def Follows : WorkerPool → WorkerPool → Prop :=
  Relation.ReflTransGen fun pool after => ∃ event, pool.step? event = some after

end WorkerPool

/-! ## The semaphore and its callers -/

/-- Where the caller of a task stands. -/
inductive CallerSide (α : Type) where
  /-- It has not called yet. -/
  | absent
  /-- It waits for a permit. -/
  | acquiring
  /-- A permit is set aside for it, but its body is still to be handed over. -/
  | granted
  /-- It has handed its body over and waits for its end. -/
  | joining
  /-- It has lost interest. -/
  | left
  /-- It has been told how the body has ended. -/
  | told (outcome : Outcome α)

namespace CallerSide

variable {α : Type} {side : CallerSide α}

/-- A caller is told how its body has ended, unless it has lost interest. -/
def hear (outcome : Outcome α) : CallerSide α → CallerSide α
  | .left => .left
  | _ => .told outcome

/-- The phase that a task can be in by where its caller stands. -/
def Fits : CallerSide α → Option TaskPhase → Prop
  | .absent, phase | .told _, phase => phase = none
  | .acquiring, phase => phase = some .waiting
  | .granted, phase => phase = some .queued
  | .joining, phase => phase = some .queued ∨ phase = some .running
  | .left, phase => phase ≠ some .waiting

/-- A caller who has lost interest does not wait for a permit. -/
theorem fits_left_none : (left : CallerSide α).Fits none :=
  Option.some_ne_none _ ∘ Eq.symm

/-- A task that is gone fits its caller as soon as the caller has been told so. -/
theorem fits_hear (side : CallerSide α) (outcome : Outcome α) : (side.hear outcome).Fits none := by
  cases side with
  | left => exact fits_left_none
  | absent | acquiring | granted | joining | told _ => rfl

/-- A caller who has handed its body over stays where it is when the body begins to run. -/
theorem fits_running (h : side.Fits (some .queued)) (hside : side ≠ .granted) :
    side.Fits (some .running) := by
  cases side with
  | absent | acquiring | told _ => exact absurd h (by simp [Fits])
  | granted => exact absurd rfl hside
  | joining => exact .inr rfl
  | left => simp [Fits]

end CallerSide

/-- A pool of workers with its semaphore and its callers, each somewhere on its way through
`execute`. -/
structure Turnstile (α : Type) where
  /-- The number of permits that the semaphore has to give away. -/
  free : Nat
  /-- The pool. -/
  pool : WorkerPool
  /-- The caller of each task. -/
  caller : Nat → CallerSide α

namespace Turnstile

variable {α : Type} {task : Nat}

/-- A pool without tasks: all permits are with the semaphore, and nobody has called yet. -/
def idle (pool : WorkerPool) : Turnstile α :=
  ⟨pool.capacity, pool, fun _ => .absent⟩

/-- What can happen, each to the call with the number of its task. -/
inductive Event (α : Type) where
  /-- A caller begins to wait for a permit. -/
  | submit (task : Nat)
  /-- The semaphore sets a permit aside for a caller. -/
  | grant (task : Nat)
  /-- A caller hands its body over, and the permit with it. -/
  | handOver (task : Nat)
  /-- A worker begins to carry a body out. -/
  | start (task : Nat)
  /-- A body comes to its end: with a value, with an error or cut short. -/
  | finish (task : Nat) (outcome : Outcome α)
  /-- A body is dropped before it runs. -/
  | discard (task : Nat)
  /-- A caller loses interest. -/
  | leave (task : Nat)

/-- An event is the end of a body that has been handed over. -/
def Event.Ends (task : Nat) : Event α → Prop
  | .finish other _ | .discard other => other = task
  | .submit _ | .grant _ | .handOver _ | .start _ | .leave _ => False

/-- What callers, workers and the end of the program can do. -/
inductive Step : Turnstile α → Event α → Turnstile α → Prop where
  /-- Whoever has not called yet can call. -/
  | submit {free : Nat} {pool : WorkerPool} {caller : Nat → CallerSide α} {task : Nat}
    (hside : caller task = .absent) :
    Step ⟨free, pool, caller⟩ (.submit task)
      ⟨free, pool.move task .waiting, Function.update caller task .acquiring⟩
  /-- The semaphore gives away what it has, to any caller who waits. -/
  | grant {free : Nat} {pool : WorkerPool} {caller : Nat → CallerSide α} {task : Nat}
    (hside : caller task = .acquiring) (hfree : 0 < free) :
    Step ⟨free, pool, caller⟩ (.grant task)
      ⟨free - 1, pool.move task .queued, Function.update caller task .granted⟩
  /-- The caller goes on to wait for the end of its body. -/
  | handOver {free : Nat} {pool : WorkerPool} {caller : Nat → CallerSide α} {task : Nat}
    (hside : caller task = .granted) :
    Step ⟨free, pool, caller⟩ (.handOver task) ⟨free, pool, Function.update caller task .joining⟩
  /-- A body that has been handed over is carried out, whether or not its caller still waits. -/
  | start {free : Nat} {pool : WorkerPool} {caller : Nat → CallerSide α} {task : Nat}
    (hphase : pool.phase? task = some .queued) (hside : caller task ≠ .granted) :
    Step ⟨free, pool, caller⟩ (.start task) ⟨free, pool.move task .running, caller⟩
  /-- A body gives its permit back when it ends, however it ends. -/
  | finish {free : Nat} {pool : WorkerPool} {caller : Nat → CallerSide α} {task : Nat}
    {outcome : Outcome α} (hphase : pool.phase? task = some .running) :
    Step ⟨free, pool, caller⟩ (.finish task outcome)
      ⟨free + 1, pool.drop task, Function.update caller task ((caller task).hear outcome)⟩
  /-- A body that is dropped unrun gives its permit back as well. -/
  | discard {free : Nat} {pool : WorkerPool} {caller : Nat → CallerSide α} {task : Nat}
    (hphase : pool.phase? task = some .queued) (hside : caller task ≠ .granted) :
    Step ⟨free, pool, caller⟩ (.discard task)
      ⟨free + 1, pool.drop task,
        Function.update caller task ((caller task).hear (.failed .taskCancelled))⟩
  /-- A caller who waits for a permit has none to give back. -/
  | leaveAcquiring {free : Nat} {pool : WorkerPool} {caller : Nat → CallerSide α} {task : Nat}
    (hside : caller task = .acquiring) :
    Step ⟨free, pool, caller⟩ (.leave task)
      ⟨free, pool.drop task, Function.update caller task .left⟩
  /-- A caller who has not used its permit gives it back. -/
  | leaveGranted {free : Nat} {pool : WorkerPool} {caller : Nat → CallerSide α} {task : Nat}
    (hside : caller task = .granted) :
    Step ⟨free, pool, caller⟩ (.leave task)
      ⟨free + 1, pool.drop task, Function.update caller task .left⟩
  /-- A caller who has handed its body over leaves the permit with it. -/
  | leaveJoining {free : Nat} {pool : WorkerPool} {caller : Nat → CallerSide α} {task : Nat}
    (hside : caller task = .joining) :
    Step ⟨free, pool, caller⟩ (.leave task) ⟨free, pool, Function.update caller task .left⟩

/-- A finite run, event by event. -/
inductive Run : Turnstile α → List (Event α) → Turnstile α → Prop where
  /-- Nothing has happened. -/
  | nil (now : Turnstile α) : Run now [] now
  /-- Something happens, and then the rest. -/
  | cons {now next last : Turnstile α} {event : Event α} {events : List (Event α)}
    (hstep : Step now event next) (hrest : Run next events last) : Run now (event :: events) last

/-- A run goes on where another one has come to. -/
theorem Run.append {now next last : Turnstile α} {earlier later : List (Event α)}
    (hrun : Run now earlier next) (hlater : Run next later last) :
    Run now (earlier ++ later) last := by
  induction hrun with
  | nil now => exact hlater
  | cons hstep hrest ih => exact .cons hstep (ih hlater)

/-! ## Conservation -/

/-- What is true of a pool that was made with a number of permits, at every point of every run. -/
structure Sound (asked : Nat) (now : Turnstile α) : Prop where
  /-- No task is in the pool twice. -/
  distinct : Pairs.Distinct now.pool.tasks
  /-- The pool still has the number of permits that it was made with. -/
  capacity : now.pool.capacity = max asked 1
  /-- A permit is with the semaphore or with a task. -/
  conserved : now.free + now.pool.held = max asked 1
  /-- Callers and tasks fit each other. -/
  fits : ∀ task, (now.caller task).Fits (now.pool.phase? task)

variable {asked free after : Nat} {pool : WorkerPool} {caller : Nat → CallerSide α}
  {side : CallerSide α} {phase : TaskPhase}

/-- All permits of an idle pool are with the semaphore. -/
theorem sound_idle (h : WorkerPool.make asked = .done pool) :
    Sound asked (idle pool : Turnstile α) := by
  rw [WorkerPool.make] at h
  split_ifs at h
  obtain rfl := Outcome.done.inj h
  exact ⟨List.nodup_nil, rfl, rfl, fun _ => rfl⟩

/-- One caller stands elsewhere and its task fits it; the tasks of all others are where they
were. -/
theorem fits_update {next : WorkerPool} (h : ∀ other, (caller other).Fits (pool.phase? other))
    (hfits : side.Fits (next.phase? task))
    (hothers : ∀ other, other ≠ task → next.phase? other = pool.phase? other) (other : Nat) :
    (Function.update caller task side other).Fits (next.phase? other) := by
  by_cases hother : other = task
  · subst hother
    rw [Function.update_self]
    exact hfits
  · rw [Function.update_of_ne hother, hothers other hother]
    exact h other

/-- A task is moved to a phase that fits its caller, and the semaphore makes up for its permits. -/
theorem Sound.moved (h : Sound asked ⟨free, pool, caller⟩) (hfits : side.Fits (some phase))
    (hfree : after + WorkerPool.permits (some phase) =
      free + WorkerPool.permits (pool.phase? task)) :
    Sound asked ⟨after, pool.move task phase, Function.update caller task side⟩ := by
  refine ⟨h.distinct.insert task phase, h.capacity, ?_,
    fits_update h.fits ?_ fun other hother => ?_⟩
  · have hheld := pool.held_move task phase
    have hconserved : free + pool.held = max asked 1 := h.conserved
    show after + (pool.move task phase).held = max asked 1
    omega
  · rwa [WorkerPool.phase?_move_self]
  · exact WorkerPool.phase?_move_of_ne hother phase

/-- A task is taken out of the pool, and the semaphore gets its permits. -/
theorem Sound.dropped (h : Sound asked ⟨free, pool, caller⟩) (hfits : side.Fits none)
    (hfree : after = free + WorkerPool.permits (pool.phase? task)) :
    Sound asked ⟨after, pool.drop task, Function.update caller task side⟩ := by
  refine ⟨h.distinct.erase task, h.capacity, ?_, fits_update h.fits ?_ fun other hother => ?_⟩
  · have hheld := pool.held_drop task
    have hconserved : free + pool.held = max asked 1 := h.conserved
    show after + (pool.drop task).held = max asked 1
    omega
  · rwa [WorkerPool.phase?_drop_self h.distinct]
  · exact WorkerPool.phase?_drop_of_ne hother

/-- A caller does something that neither the pool nor the semaphore takes notice of. -/
theorem Sound.turned (h : Sound asked ⟨free, pool, caller⟩)
    (hfits : side.Fits (pool.phase? task)) :
    Sound asked ⟨free, pool, Function.update caller task side⟩ :=
  ⟨h.distinct, h.capacity, h.conserved, fits_update h.fits hfits fun _ _ => rfl⟩

/-- The phase of a task by where its caller stands. -/
theorem Sound.fits_of_eq (h : Sound asked ⟨free, pool, caller⟩) (hside : caller task = side) :
    side.Fits (pool.phase? task) :=
  hside ▸ h.fits task

/-- Whatever happens, no permit is lost and none is given back twice. -/
theorem Sound.step {now next : Turnstile α} {event : Event α} (h : Sound asked now)
    (hstep : Step now event next) : Sound asked next := by
  -- Where the caller stands says how many permits its task has.
  cases hstep with
  | submit hside =>
    have hphase : _ = none := h.fits_of_eq hside
    exact h.moved rfl (by rw [hphase]; rfl)
  | grant hside hfree =>
    have hphase : _ = some TaskPhase.waiting := h.fits_of_eq hside
    refine h.moved rfl ?_
    rw [hphase, WorkerPool.permits, WorkerPool.permits]
    omega
  | handOver hside => exact h.turned (.inl (h.fits_of_eq hside))
  | @start free pool caller task hphase hside =>
    -- The caller stays where it is, and the body keeps its permit.
    have hfits : (caller task).Fits (some .queued) := hphase ▸ h.fits task
    have hpermits : free + WorkerPool.permits (some .running) =
        free + WorkerPool.permits (pool.phase? task) := by
      rw [hphase, WorkerPool.permits, WorkerPool.permits]
    have hmoved := h.moved (CallerSide.fits_running hfits hside) hpermits
    rwa [Function.update_eq_self] at hmoved
  | finish hphase | discard hphase _ =>
    exact h.dropped (CallerSide.fits_hear _ _) (by rw [hphase]; rfl)
  | leaveAcquiring hside =>
    have hphase : _ = some TaskPhase.waiting := h.fits_of_eq hside
    exact h.dropped CallerSide.fits_left_none (by rw [hphase]; rfl)
  | leaveGranted hside =>
    have hphase : _ = some TaskPhase.queued := h.fits_of_eq hside
    exact h.dropped CallerSide.fits_left_none (by rw [hphase]; rfl)
  | leaveJoining hside =>
    -- Whoever has left fits a body that waits to run as well as one that runs.
    refine h.turned ?_
    rcases h.fits_of_eq hside with hphase | hphase <;> simp [CallerSide.Fits, hphase]

/-- So it is after every run. -/
theorem Sound.run {now last : Turnstile α} {events : List (Event α)} (h : Sound asked now)
    (hrun : Run now events last) : Sound asked last := by
  induction hrun with
  | nil now => exact h
  | cons hstep hrest ih => exact ih (h.step hstep)

/-- The permits that the semaphore has are those that the tasks of the pool leave. -/
theorem Sound.available_eq {now : Turnstile α} (h : Sound asked now) :
    now.pool.available = now.free := by
  rw [WorkerPool.available, h.capacity, ← h.conserved, Nat.add_sub_cancel]

/-! ## The pool behind the semaphore -/

/-- Whatever happens at a turnstile is an event of the pool, or the pool takes no notice of it. -/
theorem Step.follows {now next : Turnstile α} {event : Event α} (hstep : Step now event next)
    (h : Sound asked now) : now.pool.Follows next.pool := by
  cases hstep with
  | @submit free pool caller task hside =>
    have hphase : _ = none := h.fits_of_eq hside
    exact .single ⟨.submit task, if_pos hphase⟩
  | @grant free pool caller task hside hfree =>
    have hphase : _ = some TaskPhase.waiting := h.fits_of_eq hside
    have havailable : pool.available = free := h.available_eq
    exact .single ⟨.acquire task, if_pos ⟨hphase, havailable ▸ hfree⟩⟩
  -- A pool does not know whether a caller has handed its body over, or still waits for its end.
  | handOver _ | leaveJoining _ => exact .refl
  | @start free pool caller task hphase _ => exact .single ⟨.start task, if_pos hphase⟩
  | @finish free pool caller task outcome hphase => exact .single ⟨.finish task, if_pos hphase⟩
  | @discard free pool caller task hphase _ => exact .single ⟨.cancel task, if_pos hphase⟩
  | @leaveAcquiring free pool caller task hside =>
    have hphase : _ = some TaskPhase.waiting := h.fits_of_eq hside
    refine .single ⟨.abandon task, ?_⟩
    rw [WorkerPool.step?, hphase]
  | @leaveGranted free pool caller task hside =>
    -- To the pool, a permit that goes back unused is a task that was dropped before it ran.
    have hphase : _ = some TaskPhase.queued := h.fits_of_eq hside
    exact .single ⟨.cancel task, if_pos hphase⟩

/-- Whatever happens, the pool behind a turnstile goes its own way. -/
theorem Run.follows {now last : Turnstile α} {events : List (Event α)} (hrun : Run now events last)
    (h : Sound asked now) : now.pool.Follows last.pool := by
  induction hrun with
  | nil now => exact .refl
  | cons hstep hrest ih => exact (hstep.follows h).trans (ih (h.step hstep))

/-! ## Bodies in flight -/

/-- A body has been handed over and has not come to its end: it holds a permit, whether or not its
caller still waits for it. -/
def InFlight (now : Turnstile α) (task : Nat) : Prop :=
  (now.caller task = .joining ∨ now.caller task = .left) ∧
    WorkerPool.permits (now.pool.phase? task) = 1

/-- What happens to another call leaves a body in flight. -/
theorem InFlight.of_ne {next : WorkerPool} {other : Nat}
    (h : InFlight ⟨free, pool, caller⟩ task) (hne : task ≠ other)
    (hphase : next.phase? task = pool.phase? task) :
    InFlight ⟨after, next, Function.update caller other side⟩ task := by
  obtain ⟨hside, hpermits⟩ := h
  refine ⟨?_, ?_⟩
  · show Function.update caller other side task = .joining ∨
      Function.update caller other side task = .left
    rwa [Function.update_of_ne hne]
  · show WorkerPool.permits (next.phase? task) = 1
    rwa [hphase]

/-- A caller who stands elsewhere is not the one of a body in flight. -/
theorem InFlight.ne_of_eq {other : Nat} (h : InFlight ⟨free, pool, caller⟩ task)
    (hside : caller other = side) (hjoining : side ≠ .joining) (hleft : side ≠ .left) :
    task ≠ other := by
  rintro rfl
  rcases h.1 with hcaller | hcaller
  · exact hjoining (hside.symm.trans hcaller)
  · exact hleft (hside.symm.trans hcaller)

/-- Nothing but its end takes the permit from a body in flight. -/
theorem Step.inFlight {now next : Turnstile α} {event : Event α} (hstep : Step now event next)
    (h : now.InFlight task) (hends : ¬ event.Ends task) : next.InFlight task := by
  cases hstep with
  | submit hside | grant hside _ =>
    -- Only a caller who has not handed its body over can do this, so it is another one.
    have hne := h.ne_of_eq hside (by simp) (by simp)
    exact h.of_ne hne (WorkerPool.phase?_move_of_ne hne _)
  | handOver hside => exact h.of_ne (h.ne_of_eq hside (by simp) (by simp)) rfl
  | leaveAcquiring hside | leaveGranted hside =>
    have hne := h.ne_of_eq hside (by simp) (by simp)
    exact h.of_ne hne (WorkerPool.phase?_drop_of_ne hne)
  | finish _ | discard _ _ =>
    -- It is another body that comes to its end.
    exact h.of_ne (Ne.symm hends) (WorkerPool.phase?_drop_of_ne (Ne.symm hends))
  | @start free pool caller other hphase _ =>
    refine ⟨h.1, ?_⟩
    show WorkerPool.permits ((pool.move other .running).phase? task) = 1
    by_cases hother : task = other
    · subst hother
      rw [WorkerPool.phase?_move_self, WorkerPool.permits]
    · rw [WorkerPool.phase?_move_of_ne hother]
      exact h.2
  | @leaveJoining free pool caller other hside =>
    by_cases hother : task = other
    · -- The caller is gone, but the body is still there.
      subst hother
      exact ⟨.inr (Function.update_self ..), h.2⟩
    · exact h.of_ne hother rfl

/-- A body keeps its permit as long as it has not come to its end. -/
theorem Run.inFlight {now last : Turnstile α} {events : List (Event α)} (hrun : Run now events last)
    (h : now.InFlight task) (hends : ∀ event ∈ events, ¬ event.Ends task) :
    last.InFlight task := by
  induction hrun with
  | nil now => exact h
  | cons hstep hrest ih =>
    rw [List.forall_mem_cons] at hends
    exact ih (hstep.inFlight h hends.1) hends.2

/-! ## Permits -/

/-- A turnstile accounts for all the permits that its pool was asked for, or for one if none were
asked for. -/
structure Accounts (asked : Nat) (pool : WorkerPool) (now : Turnstile α) : Prop where
  /-- The permits that the semaphore has and those that tasks hold are all there are. -/
  free_add_held : now.free + now.pool.held = max asked 1
  /-- No more tasks run than there are permits. -/
  running_le : now.pool.running ≤ max asked 1
  /-- Once no task holds a permit the semaphore has them all. -/
  free_of_none_held :
    (∀ task, WorkerPool.permits (now.pool.phase? task) = 0) → now.free = max asked 1
  /-- The tasks are those of a pool that has come about by its own events. -/
  follows : pool.Follows now.pool
  /-- The semaphore has as many permits as that pool leaves free. -/
  free_eq_available : now.free = now.pool.available
  /-- A body that has been handed over keeps its permit until it ends, even if its caller loses
  interest. -/
  keeps_permit : ∀ task, now.InFlight task → ∀ later last, Run now later last →
    (∀ event ∈ later, ¬ event.Ends task) → last.InFlight task

/-- A pool that is made with any number of permits that a semaphore can have accounts for them after
any events. -/
theorem permits_conserved {pool : WorkerPool} (hmake : WorkerPool.make asked = .done pool)
    {events : List (Event α)} {now : Turnstile α} (hrun : Run (idle pool) events now) :
    Accounts asked pool now := by
  have hsound := (sound_idle hmake).run hrun
  have hconserved := hsound.conserved
  constructor
  case free_add_held => exact hconserved
  case running_le =>
    calc now.pool.running ≤ now.pool.held := now.pool.running_le_held
      _ ≤ max asked 1 := hconserved ▸ Nat.le_add_left _ _
  case free_of_none_held =>
    intro hnone
    rwa [WorkerPool.held_eq_zero hsound.distinct hnone] at hconserved
  case follows => exact hrun.follows (sound_idle hmake)
  case free_eq_available => exact hsound.available_eq.symm
  case keeps_permit => exact fun _ hflight _ _ hlater hends => hlater.inFlight hflight hends

/-- Asked for no permits, a pool has one. The first caller loses interest while its body runs, and
the body is cut short; the second loses interest with the permit set aside for it; the body of the
third is dropped unrun. -/
theorem permits_conserved_abandoned :
    let pool := WorkerPool.ofCapacity 0
    let abandoned : List (Event Unit) :=
      [.submit 0, .grant 0, .submit 1, .handOver 0, .start 0, .leave 0]
    let ended : List (Event Unit) :=
      [.finish 0 (.aborted (.raised "boom")), .grant 1, .leave 1, .submit 2, .grant 2, .handOver 2,
        .discard 2]
    WorkerPool.make 0 = .done pool ∧
      ∃ now, Run (idle pool) abandoned now ∧ now.InFlight 0 ∧ now.free = 0 ∧
        ∃ last, Run now ended last ∧ last.free = 1 := by
  intro pool abandoned ended
  have hmake : WorkerPool.make 0 = .done pool := rfl
  have hjoining : CallerSide.joining (α := Unit) ≠ .granted := by simp
  obtain ⟨now, hnow, hflight, hheld, last, hlast, hnone⟩ :
      ∃ now, Run (idle pool) abandoned now ∧ now.InFlight 0 ∧ now.pool.held = 1 ∧
        ∃ last, Run now ended last ∧ ∀ task, WorkerPool.permits (last.pool.phase? task) = 0 :=
    ⟨_, .cons (.submit rfl) (.cons (.grant rfl (by decide)) (.cons (.submit rfl)
      (.cons (.handOver rfl) (.cons (.start rfl hjoining) (.cons (.leaveJoining rfl) (.nil _)))))),
      ⟨.inr rfl, rfl⟩, rfl,
      _, .cons (.finish rfl) (.cons (.grant rfl (by decide)) (.cons (.leaveGranted rfl)
        (.cons (.submit rfl) (.cons (.grant rfl (by decide)) (.cons (.handOver rfl)
          (.cons (.discard rfl hjoining) (.nil _))))))), fun _ => rfl⟩
  refine ⟨hmake, now, hnow, hflight, ?_, last, hlast, ?_⟩
  · have hconserved := (permits_conserved hmake hnow).free_add_held
    rw [hheld] at hconserved
    exact Nat.add_right_cancel hconserved
  · exact (permits_conserved hmake (hnow.append hlast)).free_of_none_held hnone

end Turnstile

end KeyedStore
