import KeyedStore.Storage.Service
import Mathlib.Logic.Function.Iterate

/-!
# Steps of routines

A run carries a routine out without a break; other threads see its steps. What is left of a routine
after a step, run from what the step has left behind, comes to what the whole routine comes to.

- `ending?`: how a routine has ended, if it has;
- `run_bind`: the run of a composed routine;
- `run_step`, `run_stepped`: a step is the beginning of a run, and so are several;
- `exists_ending?_stepped`: a routine that is let alone ends.

## References

- SPEC_FULL.md, section 5
-/

namespace KeyedStore.Routine

variable {σ α : Type} (backend : Backend σ)

/-- How a routine has ended, if it has. -/
def ending? : Routine α → Option (Outcome α)
  | .done value => some (.done value)
  | .fail error => some (.failed error)
  | .abort cause => some (.aborted cause)
  | .call _ _ | .options _ | .emit _ _ => none

/-- What is left of a routine after some steps, and what they leave behind. -/
def stepped (turns : Nat) (routine : Routine α) (service : Service σ) :
    Routine α × Service σ :=
  (fun now => now.1.step backend now.2)^[turns] (routine, service)

/-- A routine goes on from the value of another one, and from what that one leaves behind. -/
theorem run_bind {β : Type} (routine : Routine α) (next : α → Routine β) (service : Service σ) :
    (routine >>= next).run backend service =
      match routine.run backend service with
      | (.done value, after) => (next value).run backend after
      | (.failed error, after) => (.failed error, after)
      | (.aborted cause, after) => (.aborted cause, after) := by
  change (routine.bind next).run backend service = _
  induction routine generalizing service with
  | done _ | fail _ | abort _ => rfl
  | call request step ih => exact ih _ _
  | options step ih => exact ih _ _
  | emit event step ih => exact ih _

/-- What is left after a step comes to what the whole routine comes to. -/
theorem run_step (routine : Routine α) (service : Service σ) :
    (routine.step backend service).1.run backend (routine.step backend service).2 =
      routine.run backend service := by
  cases routine <;> rfl

variable {backend}

/-- A routine that has ended does nothing more. -/
theorem step_of_ending? {routine : Routine α} {outcome : Outcome α}
    (h : routine.ending? = some outcome) (service : Service σ) :
    routine.step backend service = (routine, service) := by
  cases routine with
  | done _ | fail _ | abort _ => rfl
  | call _ _ | options _ | emit _ _ => exact absurd h (by simp [ending?])

/-- The run of a routine that has ended. -/
theorem run_of_ending? {routine : Routine α} {outcome : Outcome α}
    (h : routine.ending? = some outcome) (service : Service σ) :
    routine.run backend service = (outcome, service) := by
  cases routine with
  | done _ | fail _ | abort _ => rw [run, Option.some.inj h]
  | call _ _ | options _ | emit _ _ => exact absurd h (by simp [ending?])

variable (backend)

theorem stepped_succ (turns : Nat) (routine : Routine α) (service : Service σ) :
    routine.stepped backend (turns + 1) service =
      (routine.step backend service).1.stepped backend turns (routine.step backend service).2 := rfl

theorem stepped_succ' (turns : Nat) (routine : Routine α) (service : Service σ) :
    routine.stepped backend (turns + 1) service =
      (routine.stepped backend turns service).1.step backend
        (routine.stepped backend turns service).2 :=
  Function.iterate_succ_apply' _ turns (routine, service)

/-- What is left after several steps comes to what the whole routine comes to. -/
theorem run_stepped (turns : Nat) (routine : Routine α) (service : Service σ) :
    (routine.stepped backend turns service).1.run backend
        (routine.stepped backend turns service).2 =
      routine.run backend service := by
  induction turns generalizing routine service with
  | zero => rfl
  | succ turns ih => rw [stepped_succ, ih, run_step]

/-- A routine that is let alone ends, and its run is where it ends. -/
theorem exists_ending?_stepped (routine : Routine α) (service : Service σ) :
    ∃ turns, (routine.stepped backend turns service).1.ending? =
      some (routine.run backend service).1 := by
  -- What is left after a step is a part of the routine.
  induction routine generalizing service with
  | done _ | fail _ | abort _ => exact ⟨0, rfl⟩
  | call request next ih =>
    obtain ⟨turns, h⟩ := ih _ { service with state := (backend.perform request service.state).2 }
    exact ⟨turns + 1, h⟩
  | options next ih =>
    obtain ⟨turns, h⟩ := ih _ service
    exact ⟨turns + 1, h⟩
  | emit event next ih =>
    obtain ⟨turns, h⟩ := ih (service.note event)
    exact ⟨turns + 1, h⟩

variable {backend}

/-- A routine that has ended stays as it is. -/
theorem stepped_of_ending? {turns : Nat} {routine : Routine α} {service : Service σ}
    {outcome : Outcome α} (h : (routine.stepped backend turns service).1.ending? = some outcome)
    {more : Nat} (hmore : turns ≤ more) :
    routine.stepped backend more service = routine.stepped backend turns service := by
  obtain ⟨extra, rfl⟩ := Nat.exists_eq_add_of_le hmore
  clear hmore
  induction extra with
  | zero => rfl
  | succ extra ih => rw [← Nat.add_assoc, stepped_succ', ih, step_of_ending? h]

/-- Where a routine ends is what its run comes to. -/
theorem run_eq_stepped {turns : Nat} {routine : Routine α} {service : Service σ}
    {outcome : Outcome α} (h : (routine.stepped backend turns service).1.ending? = some outcome) :
    routine.run backend service = (outcome, (routine.stepped backend turns service).2) := by
  rw [← run_stepped backend turns, run_of_ending? h]

end KeyedStore.Routine
