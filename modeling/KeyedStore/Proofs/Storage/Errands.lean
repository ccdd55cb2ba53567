import KeyedStore.Player.Stats
import KeyedStore.Proofs.Storage.Settling
import KeyedStore.Proofs.Storage.Steps
import KeyedStore.Repository.Memory
import KeyedStore.Storage.WorkerPool
import Mathlib.Logic.Relation

/-!
# Operations as tasks of the pool

A routine that is handed to the pool of workers is an errand. It shares the pool with the tasks of
other callers: it waits for a permit, is queued, and is then either carried out step by step or
dropped. Its caller gets an answer in both cases.

- `Errand.Step`: what can happen to an errand and around it;
- `Errand.Stands`: how an errand stands at every point of its life;
- `Errand.exists_life`: both endings happen whenever a permit is free;
- `Operation.errand_carried_out_or_dropped`: the answers of an operation that is an errand, and what
  it leaves behind;
- `Operation.not_forall_errand_configuration`: a dropped errand answers with an error that is no
  configuration error, although the operation never does.

## References

- SPEC_FULL.md, sections 4.4 and 10.6, the operations that end in `_async`
-/

namespace KeyedStore

/-! ## Tasks -/

/-- The task that an event is about. -/
def PoolEvent.task : PoolEvent → Nat
  | .submit task | .acquire task | .start task | .finish task | .abandon task | .cancel task => task

namespace WorkerPool

variable {pool after : WorkerPool} {task other : Nat}

@[simp]
theorem phase?_move_self (pool : WorkerPool) (task : Nat) (phase : TaskPhase) :
    (pool.move task phase).phase? task = some phase :=
  Pairs.get?_insert_self task phase pool.tasks

theorem phase?_move_of_ne (h : other ≠ task) (phase : TaskPhase) :
    (pool.move task phase).phase? other = pool.phase? other :=
  Pairs.get?_insert_of_ne h phase pool.tasks

theorem phase?_drop_of_ne (h : other ≠ task) : (pool.drop task).phase? other = pool.phase? other :=
  Pairs.get?_erase_of_ne h pool.tasks

/-- An event moves its task, takes it out of the pool or changes nothing. -/
theorem step?_cases {event : PoolEvent} (h : pool.step? event = some after) :
    after = pool ∨ (∃ phase, after = pool.move event.task phase) ∨
      after = pool.drop event.task := by
  cases event with
  | submit task | acquire task | start task =>
    rw [step?] at h
    split_ifs at h
    exact .inr (.inl ⟨_, (Option.some.inj h).symm⟩)
  | finish task | cancel task =>
    rw [step?] at h
    split_ifs at h
    exact .inr (.inr (Option.some.inj h).symm)
  | abandon task =>
    -- A task that is abandoned is gone if it still waits; otherwise nothing changes.
    rw [step?] at h
    split at h
    · exact absurd h (by simp)
    · exact .inr (.inr (Option.some.inj h).symm)
    · exact .inl (Option.some.inj h).symm

/-- An event leaves every other task where it is. -/
theorem phase?_step?_of_ne {event : PoolEvent} (h : pool.step? event = some after)
    (hne : other ≠ event.task) : after.phase? other = pool.phase? other := by
  rcases step?_cases h with rfl | ⟨phase, rfl⟩ | rfl
  · rfl
  · exact phase?_move_of_ne hne phase
  · exact phase?_drop_of_ne hne

/-- A new task that waits holds no permit. -/
theorem available_submit (h : pool.phase? task = none) :
    (pool.move task .waiting).available = pool.available := by
  have htasks : (pool.move task .waiting).tasks = pool.tasks ++ [(task, .waiting)] :=
    Pairs.insert_eq_append (Pairs.get?_eq_none_iff.mp h) _
  rw [available, available, held, held, htasks, List.filter_append, List.length_append]
  rfl

end WorkerPool

/-! ## Errands -/

/-- A routine that is handed to a pool of workers as one of its tasks. -/
structure Errand (σ α : Type) where
  /-- The pool with all its tasks. -/
  pool : WorkerPool
  /-- What is left of the routine. -/
  routine : Routine α
  /-- The store. -/
  service : Service σ
  /-- What the caller has got. -/
  answer : Option (Outcome α)

namespace Errand

variable {σ α : Type} {backend : Backend σ} {task : Nat}

/-- What can happen to an errand and around it. -/
inductive Step (backend : Backend σ) (task : Nat) : Errand σ α → Errand σ α → Prop where
  /-- Something happens to the task of another caller. -/
  | other {pool after : WorkerPool} {routine : Routine α} {service : Service σ}
    {answer : Option (Outcome α)} {event : PoolEvent} (hne : task ≠ event.task)
    (h : pool.step? event = some after) :
    Step backend task ⟨pool, routine, service, answer⟩ ⟨after, routine, service, answer⟩
  /-- The task is handed in, gets its permit or begins to run. -/
  | advance {pool after : WorkerPool} {routine : Routine α} {service : Service σ}
    {event : PoolEvent} (hevent : event ∈ [.submit task, .acquire task, .start task])
    (h : pool.step? event = some after) :
    Step backend task ⟨pool, routine, service, none⟩ ⟨after, routine, service, none⟩
  /-- A worker takes the next step of the routine. -/
  | work {pool : WorkerPool} {routine : Routine α} {service : Service σ}
    (hphase : pool.phase? task = some .running) :
    Step backend task ⟨pool, routine, service, none⟩
      ⟨pool, (routine.step backend service).1, (routine.step backend service).2, none⟩
  /-- The routine has ended, and the caller gets what it has come to. -/
  | finish {pool after : WorkerPool} {routine : Routine α} {service : Service σ}
    {outcome : Outcome α} (hending : routine.ending? = some outcome)
    (h : pool.step? (.finish task) = some after) :
    Step backend task ⟨pool, routine, service, none⟩ ⟨after, routine, service, some outcome⟩
  /-- The task is dropped before it runs. -/
  | cancel {pool after : WorkerPool} {routine : Routine α} {service : Service σ}
    (h : pool.step? (.cancel task) = some after) :
    Step backend task ⟨pool, routine, service, none⟩
      ⟨after, routine, service, some (.failed .taskCancelled)⟩

/-- A part of the life of an errand. -/
def Life (backend : Backend σ) (task : Nat) : Errand σ α → Errand σ α → Prop :=
  Relation.ReflTransGen (Step backend task)

/-- How an errand stands that has begun with a routine. -/
inductive Stands (backend : Backend σ) (task : Nat) (routine : Routine α) (service : Service σ) :
    Errand σ α → Prop where
  /-- Nothing of it has been done. -/
  | unrun (pool : WorkerPool) : Stands backend task routine service ⟨pool, routine, service, none⟩
  /-- What is left comes to what the whole routine comes to. -/
  | running {pool : WorkerPool} {left : Routine α} {now : Service σ}
    (hphase : pool.phase? task = some .running)
    (hrun : left.run backend now = routine.run backend service) :
    Stands backend task routine service ⟨pool, left, now, none⟩
  /-- The caller has an answer. -/
  | answered {pool : WorkerPool} {left : Routine α} {now : Service σ} {outcome : Outcome α}
    (ending : WorkerPool.Ending)
    (hrun : (outcome, now) = routine.runAsync backend ending service) :
    Stands backend task routine service ⟨pool, left, now, some outcome⟩

variable {routine : Routine α} {service : Service σ}

/-- A task that is being carried out is neither handed in nor queued any more. -/
theorem not_advance_of_running {pool after : WorkerPool} {event : PoolEvent}
    (hphase : pool.phase? task = some .running)
    (hevent : event ∈ [PoolEvent.submit task, .acquire task, .start task, .cancel task]) :
    pool.step? event ≠ some after := by
  simp only [List.mem_cons, List.not_mem_nil, or_false] at hevent
  rcases hevent with rfl | rfl | rfl | rfl <;> simp [WorkerPool.step?, hphase]

/-- Whatever happens, an errand stands as before or better. -/
theorem Stands.step {errand next : Errand σ α} (h : Stands backend task routine service errand)
    (hstep : Step backend task errand next) : Stands backend task routine service next := by
  cases hstep with
  | other hne hpool =>
    -- The pool has changed, but not the phase of this task.
    cases h with
    | unrun => exact .unrun _
    | running hphase hrun =>
      exact .running ((WorkerPool.phase?_step?_of_ne hpool hne).trans hphase) hrun
    | answered ending hrun => exact .answered ending hrun
  | advance hevent hpool =>
    cases h with
    | unrun => exact .unrun _
    | running hphase _ =>
      refine absurd hpool (not_advance_of_running hphase ?_)
      exact List.mem_append_left [.cancel task] hevent
  | work hphase =>
    refine .running hphase ?_
    rw [Routine.run_step]
    cases h with
    | unrun => rfl
    | running _ hrun => exact hrun
  | finish hending _ =>
    -- A routine that has ended is its own run, and the run has been the same all the time.
    refine .answered .ran ?_
    rw [Routine.runAsync, ← Routine.run_of_ending? hending]
    cases h with
    | unrun => rfl
    | running _ hrun => exact hrun
  | cancel hpool =>
    cases h with
    | unrun => exact .answered .cancelled rfl
    | running hphase _ => exact absurd hpool (not_advance_of_running hphase (by simp))

/-- At every point of its life an errand stands in one of three ways. -/
theorem Stands.life {errand last : Errand σ α} (h : Stands backend task routine service errand)
    (hlife : Life backend task errand last) : Stands backend task routine service last := by
  induction hlife with
  | refl => exact h
  | tail _ hstep ih => exact ih.step hstep

/-! ## Lives -/

/-- A worker takes as many steps of the routine as it likes. -/
theorem life_stepped {pool : WorkerPool} (hphase : pool.phase? task = some .running)
    (turns : Nat) :
    Life backend task ⟨pool, routine, service, none⟩
      ⟨pool, (routine.stepped backend turns service).1, (routine.stepped backend turns service).2,
        none⟩ := by
  induction turns with
  | zero => exact .refl
  | succ turns ih =>
    rw [Routine.stepped_succ']
    exact ih.tail (.work hphase)

/-- If a permit is free, a new task is queued. -/
theorem life_queued {pool : WorkerPool} (hnew : pool.phase? task = none)
    (hfree : 0 < pool.available) :
    Life backend task ⟨pool, routine, service, none⟩
      ⟨(pool.move task .waiting).move task .queued, routine, service, none⟩ := by
  have hsubmit : pool.step? (.submit task) = some (pool.move task .waiting) := by
    rw [WorkerPool.step?, if_pos hnew]
  have hacquire : (pool.move task .waiting).step? (.acquire task) =
      some ((pool.move task .waiting).move task .queued) := by
    rw [← WorkerPool.available_submit hnew] at hfree
    rw [WorkerPool.step?, if_pos ⟨pool.phase?_move_self task _, hfree⟩]
  exact .tail (.tail .refl (.advance (by simp) hsubmit)) (.advance (by simp) hacquire)

/-- If a permit is free, a new task can be carried out to its end, and it can be dropped. -/
theorem exists_life {pool : WorkerPool} (hnew : pool.phase? task = none)
    (hfree : 0 < pool.available) (ending : WorkerPool.Ending) :
    ∃ last : Errand σ α, Life backend task ⟨pool, routine, service, none⟩ last ∧
      last.answer = some (routine.runAsync backend ending service).1 ∧
      last.service = (routine.runAsync backend ending service).2 := by
  have hqueued : Life backend task ⟨pool, routine, service, none⟩ _ := life_queued hnew hfree
  set queued := (pool.move task .waiting).move task .queued
  have hphase : queued.phase? task = some .queued := WorkerPool.phase?_move_self _ _ _
  cases ending with
  | cancelled =>
    have hcancel : queued.step? (.cancel task) = some (queued.drop task) := by
      rw [WorkerPool.step?, if_pos hphase]
    exact ⟨_, hqueued.tail (.cancel hcancel), rfl, rfl⟩
  | ran =>
    have hstart : queued.step? (.start task) = some (queued.move task .running) := by
      rw [WorkerPool.step?, if_pos hphase]
    have hrunning := queued.phase?_move_self task .running
    have hfinish : (queued.move task .running).step? (.finish task) =
        some ((queued.move task .running).drop task) := by
      rw [WorkerPool.step?, if_pos hrunning]
    -- The worker goes on until the routine has ended.
    obtain ⟨turns, hending⟩ := routine.exists_ending?_stepped backend service
    have hlife := ((hqueued.tail (.advance (by simp) hstart)).trans
      (life_stepped hrunning turns)).tail (.finish hending hfinish)
    have hrun := routine.run_stepped backend turns service
    rw [Routine.run_of_ending? hending] at hrun
    exact ⟨_, hlife, rfl, congrArg Prod.snd hrun⟩

end Errand

/-! ## Operations -/

namespace Operation

variable {σ : Type}

/-- Only configuration errors are left when an operation is settled. -/
theorem kind_of_settled_eq_failed (operation : Operation) {steps : Outcome operation.Answer}
    {error : StoreError} (h : operation.settled steps = .failed error) :
    error.kind = .configuration := by
  cases steps with
  | done answer | aborted cause => exact absurd h (by simp [settled])
  | failed other =>
    rw [settled] at h
    split_ifs at h with hother
    rw [← Outcome.failed.inj h]
    exact of_decide_eq_true hother

/-- An operation that is an errand has one of two endings. Carried out to its end it answers,
reports and leaves behind what it does without a pool, so that its errors are configuration errors.
Dropped before it runs it has done nothing, and its caller gets the connectivity error of the pool,
which nobody settles or reports. Both endings happen whenever a permit is free. -/
theorem errand_carried_out_or_dropped (operation : Operation) (backend : Backend σ)
    (service : Service σ) (pool : WorkerPool) (task : Nat) :
    (∀ last outcome,
      Errand.Life backend task ⟨pool, operation.routine, service, none⟩ last →
      last.answer = some outcome →
      ((outcome, last.service) = operation.routine.run backend service ∧
          ∀ error, outcome = .failed error → error.kind = .configuration) ∨
        ((outcome, last.service) = (.failed .taskCancelled, service) ∧
          StoreError.taskCancelled.kind = .connectivity)) ∧
    (pool.phase? task = none → 0 < pool.available → ∀ ending, ∃ last,
      Errand.Life backend task ⟨pool, operation.routine, service, none⟩ last ∧
        last.answer = some (operation.routine.runAsync backend ending service).1 ∧
        last.service = (operation.routine.runAsync backend ending service).2) := by
  constructor
  · intro last outcome hlife hanswer
    have hstart : Errand.Stands backend task operation.routine service
        ⟨pool, operation.routine, service, none⟩ := .unrun pool
    have hstands := hstart.life hlife
    -- The caller has an answer, so the task has been carried out or dropped.
    cases hstands with
    | unrun | running => exact absurd hanswer (by simp)
    | answered ending hrun =>
      obtain rfl := Option.some.inj hanswer
      cases ending with
      | cancelled => exact .inr ⟨hrun, rfl⟩
      | ran =>
        rw [Routine.runAsync] at hrun
        refine .inl ⟨hrun, ?_⟩
        intro error herror
        have hsettled := run_eq_settled backend operation service
        rw [← hrun, herror] at hsettled
        exact operation.kind_of_settled_eq_failed hsettled.symm
  · intro hnew hfree ending
    exact Errand.exists_life hnew hfree ending

/-- The deletion of a player's counters, handed to an idle pool of one worker, is carried out in one
life and dropped in another. -/
theorem errand_carried_out_or_dropped_delete :
    let operation : Operation := .delete (.structured PlayerStats.kind) "p"
    let service := Service.on Memory.fresh .collect
    let errand := Errand.mk (.ofCapacity 1) operation.routine service none
    (∃ last, Errand.Life Memory.backend 0 errand last ∧ last.answer = some (.done ())) ∧
      ∃ last, Errand.Life Memory.backend 0 errand last ∧
        last.answer = some (.failed .taskCancelled) ∧ last.service = service := by
  intro operation service errand
  have hpool := (errand_carried_out_or_dropped operation Memory.backend service
    (.ofCapacity 1) 0).2 rfl (by decide)
  obtain ⟨last, hlife, hanswer, -⟩ := hpool .ran
  obtain ⟨other, hother, hdropped, hservice⟩ := hpool .cancelled
  exact ⟨⟨last, hlife, hanswer⟩, other, hother, hdropped, hservice⟩

/-- Not every error that the caller of an errand gets is a configuration error. -/
theorem not_forall_errand_configuration :
    ¬ ∀ (operation : Operation) (backend : Backend Memory) (service : Service Memory)
      (pool : WorkerPool) (task : Nat) (last : Errand Memory operation.Answer) (error : StoreError),
      Errand.Life backend task ⟨pool, operation.routine, service, none⟩ last →
      last.answer = some (.failed error) → error.kind = .configuration := by
  intro h
  let operation : Operation := .delete (.structured PlayerStats.kind) "p"
  obtain ⟨last, hlife, hanswer, -⟩ : ∃ last : Errand Memory operation.Answer,
      Errand.Life Memory.backend 0
        ⟨.ofCapacity 1, operation.routine, .on .fresh .collect, none⟩ last ∧
        last.answer = some (.failed .taskCancelled) ∧ last.service = .on .fresh .collect :=
    Errand.exists_life rfl (by decide) .cancelled
  have hkind := h _ _ _ _ _ last .taskCancelled hlife hanswer
  exact absurd hkind (by decide)

end Operation

end KeyedStore
