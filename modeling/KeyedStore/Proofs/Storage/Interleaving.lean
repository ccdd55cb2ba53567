import KeyedStore.Proofs.Storage.Within
import Mathlib.Data.List.Induction

/-!
# Interleaved routines

Callers of one store take steps in the order of a schedule, one step at a time. Nothing is locked
between the steps of a routine. If every caller has a slot of its own, none of them can notice the
others, whatever the schedule: each is where it would be alone after as many steps of its own, and
running the callers one after the other is only one of the schedules.

- `Callers.turns`: the callers after a schedule;
- `turns_alone`: a caller with a slot of its own is where it would be alone;
- `exists_schedule_inOrder`: one after the other is a schedule;
- `turns_commute`: all schedules that let all callers end come to the same;
- `Callers.Reaches`: the callers after a schedule, with others at work in between.

## References

- SPEC_FULL.md, section 5
-/

namespace KeyedStore

/-- Two states of the documents are alike: both are open or both are closed, and every slot holds
the same document in both. -/
def Memory.Alike (first second : Memory) : Prop :=
  first.isOpen = second.isOpen ∧ ∀ slot, first.get? slot = second.get? slot

/-- The next step of a routine puts a document. -/
def Routine.putsNext {α : Type} : Routine α → Bool
  | .call (.upsert _ _) _ => true
  | _ => false

/-- Callers of one store, each with what is left of a routine of its own. -/
structure Callers (σ : Type) {ι : Type} (α : ι → Type) where
  /-- What is left of the routine of each caller. -/
  left : ∀ i, Routine (α i)
  /-- The store. -/
  service : Service σ

namespace Callers

variable {σ ι : Type} {α : ι → Type} [DecidableEq ι] (backend : Backend σ)

/-- A caller takes a step. -/
def turn (callers : Callers σ α) (i : ι) : Callers σ α :=
  let next := (callers.left i).step backend callers.service
  ⟨Function.update callers.left i next.1, next.2⟩

/-- Callers take steps in the order of a schedule. -/
def turns (callers : Callers σ α) (schedule : List ι) : Callers σ α :=
  schedule.foldl (turn backend) callers

/-- A caller has come to the end of its routine. -/
def Ended (callers : Callers σ α) (i : ι) : Prop :=
  ∃ outcome, (callers.left i).ending? = some outcome

/-- The store after whole routines, one after the other. -/
def inOrder (routines : ∀ i, Routine (α i)) (service : Service σ) (order : List ι) : Service σ :=
  order.foldl (fun now i => ((routines i).run backend now).2) service

@[simp]
theorem left_turn_self (callers : Callers σ α) (i : ι) :
    (callers.turn backend i).left i = ((callers.left i).step backend callers.service).1 :=
  Function.update_self ..

theorem left_turn_of_ne (callers : Callers σ α) {i j : ι} (h : j ≠ i) :
    (callers.turn backend i).left j = callers.left j :=
  Function.update_of_ne h ..

theorem turns_append (callers : Callers σ α) (first second : List ι) :
    callers.turns backend (first ++ second) = (callers.turns backend first).turns backend second :=
  List.foldl_append

theorem turns_concat (callers : Callers σ α) (schedule : List ι) (i : ι) :
    callers.turns backend (schedule ++ [i]) = (callers.turns backend schedule).turn backend i :=
  turns_append backend callers schedule [i]

theorem count_concat_of_ne {i j : ι} (h : i ≠ j) (schedule : List ι) :
    (schedule ++ [j]).count i = schedule.count i := by
  rw [List.count_append, List.count_singleton, if_neg (by simpa using h.symm), Nat.add_zero]

/-- A caller takes several steps and no other caller takes one. -/
theorem turns_replicate (callers : Callers σ α) (i : ι) (n : Nat) :
    (callers.turns backend (List.replicate n i)).left i =
        ((callers.left i).stepped backend n callers.service).1 ∧
      (∀ j, j ≠ i → (callers.turns backend (List.replicate n i)).left j = callers.left j) ∧
      (callers.turns backend (List.replicate n i)).service =
        ((callers.left i).stepped backend n callers.service).2 := by
  induction n with
  | zero => exact ⟨rfl, fun _ _ => rfl, rfl⟩
  | succ n ih =>
    obtain ⟨hleft, hothers, hservice⟩ := ih
    rw [List.replicate_succ', turns_concat, Routine.stepped_succ', left_turn_self, hleft, hservice]
    refine ⟨rfl, ?_, ?_⟩
    · intro j hj
      rw [left_turn_of_ne backend _ hj, hothers j hj]
    · rw [turn, hleft, hservice]

/-! ## Callers with slots of their own -/

section

variable {slot : ι → Slot} {start : Callers Memory α}

/-- A caller with a slot of its own is where it would be alone after as many steps of its own, and
its slot is what it would be. -/
theorem turns_alone (hslots : Function.Injective slot)
    (hwithin : ∀ i, (start.left i).Within (slot i) fun _ => True) (schedule : List ι) (i : ι) :
    ((start.turns Memory.backend schedule).left i).Within (slot i) (fun _ => True) ∧
      (start.turns Memory.backend schedule).left i =
        ((start.left i).stepped Memory.backend (schedule.count i) start.service).1 ∧
      (start.turns Memory.backend schedule).service.AgreeAt (slot i)
        ((start.left i).stepped Memory.backend (schedule.count i) start.service).2 := by
  -- The last step of the schedule is a step of the caller itself or of another one.
  induction schedule using List.reverseRecOn generalizing i with
  | nil => exact ⟨hwithin i, rfl, .refl _ _⟩
  | append_singleton schedule j ih =>
    rw [turns_concat]
    by_cases hij : i = j
    · -- The caller finds its slot as it would find it alone.
      subst hij
      obtain ⟨hwithinNow, hleft, hagree⟩ := ih i
      have hstep := hwithinNow.step_eq hagree
      rw [left_turn_self, List.count_append, List.count_singleton_self, Routine.stepped_succ',
        ← hleft]
      exact ⟨hwithinNow.step _, hstep⟩
    · -- The other caller has another slot, so the step changes nothing for this one.
      obtain ⟨hwithinNow, hleft, hagree⟩ := ih i
      have hslot : slot i ≠ slot j := by
        intro h
        exact hij (hslots h)
      rw [left_turn_of_ne _ _ hij, count_concat_of_ne hij]
      refine ⟨hwithinNow, hleft, ?_⟩
      exact ((ih j).1.agreeAt_step_of_ne _ hslot).trans hagree

/-- A caller that has ended has come to what it comes to alone. -/
theorem ending?_eq_of_ended (hslots : Function.Injective slot)
    (hwithin : ∀ i, (start.left i).Within (slot i) fun _ => True) {schedule : List ι} {i : ι}
    (h : (start.turns Memory.backend schedule).Ended i) :
    ((start.turns Memory.backend schedule).left i).ending? =
        some ((start.left i).run Memory.backend start.service).1 ∧
      (start.turns Memory.backend schedule).service.AgreeAt (slot i)
        ((start.left i).run Memory.backend start.service).2 := by
  obtain ⟨outcome, hending⟩ := h
  obtain ⟨-, hleft, hagree⟩ := turns_alone hslots hwithin schedule i
  rw [hending]
  rw [hleft] at hending
  rw [Routine.run_eq_stepped hending]
  exact ⟨rfl, hagree⟩

/-- A slot that is nobody's is left alone, and the backend stays open or closed. -/
theorem get?_turns_of_not_mem (hslots : Function.Injective slot)
    (hwithin : ∀ i, (start.left i).Within (slot i) fun _ => True) (schedule : List ι) :
    (start.turns Memory.backend schedule).service.state.isOpen = start.service.state.isOpen ∧
      ∀ other, (∀ i, other ≠ slot i) →
        (start.turns Memory.backend schedule).service.state.get? other =
          start.service.state.get? other := by
  induction schedule using List.reverseRecOn with
  | nil => exact ⟨rfl, fun _ _ => rfl⟩
  | append_singleton schedule j ih =>
    rw [turns_concat]
    -- The step is about the slot of the caller that takes it, which is another one.
    obtain ⟨hwithinNow, -⟩ := turns_alone hslots hwithin schedule j
    refine ⟨(Routine.isOpen_step _ _).trans ih.1, ?_⟩
    intro other hother
    exact (hwithinNow.get?_step_of_ne _ (hother j)).trans (ih.2 other hother)

/-- Two schedules that let all callers end leave the same documents. -/
theorem alike_turns (hslots : Function.Injective slot)
    (hwithin : ∀ i, (start.left i).Within (slot i) fun _ => True) {first second : List ι}
    (hfirst : ∀ i, (start.turns Memory.backend first).Ended i)
    (hsecond : ∀ i, (start.turns Memory.backend second).Ended i) :
    (start.turns Memory.backend first).service.state.Alike
      (start.turns Memory.backend second).service.state := by
  obtain ⟨hopen, hothers⟩ := get?_turns_of_not_mem hslots hwithin first
  obtain ⟨hopen', hothers'⟩ := get?_turns_of_not_mem hslots hwithin second
  refine ⟨hopen.trans hopen'.symm, ?_⟩
  intro other
  by_cases hother : ∃ i, other = slot i
  · -- Its caller has ended under both schedules, and alone it ends in one way only.
    obtain ⟨i, rfl⟩ := hother
    have hagree := (ending?_eq_of_ended hslots hwithin (hfirst i)).2.state.get?
    have hagree' := (ending?_eq_of_ended hslots hwithin (hsecond i)).2.state.get?
    exact hagree.trans hagree'.symm
  · rw [not_exists] at hother
    exact (hothers other hother).trans (hothers' other hother).symm

end

/-! ## One after the other -/

/-- To run callers one after the other is a schedule. -/
theorem exists_schedule_inOrder {order : List ι} (hnodup : order.Nodup) (callers : Callers σ α)
    {routines : ∀ i, Routine (α i)} (hleft : ∀ i ∈ order, callers.left i = routines i) :
    ∃ schedule,
      (callers.turns backend schedule).service = inOrder backend routines callers.service order ∧
        (∀ i ∈ order, (callers.turns backend schedule).Ended i) ∧
        ∀ i ∉ order, (callers.turns backend schedule).left i = callers.left i := by
  induction order generalizing callers with
  | nil => exact ⟨[], rfl, by simp, fun _ _ => rfl⟩
  | cons i order ih =>
    obtain ⟨hnotMem, hnodup⟩ := List.nodup_cons.mp hnodup
    -- The first caller is let alone until it has ended.
    obtain ⟨n, hending⟩ := (callers.left i).exists_ending?_stepped backend callers.service
    obtain ⟨hself, hothers, hservice⟩ := turns_replicate backend callers i n
    have hrun := Routine.run_eq_stepped hending
    rw [← hself] at hending
    rw [hleft i List.mem_cons_self] at hrun
    have hne : ∀ j ∈ order, j ≠ i := by
      rintro j hj rfl
      exact hnotMem hj
    -- The others have not taken a step yet, so the rest of the order is as before.
    have hrest : ∀ j ∈ order,
        (callers.turns backend (List.replicate n i)).left j = routines j := by
      intro j hj
      rw [hothers j (hne j hj), hleft j (List.mem_cons_of_mem i hj)]
    obtain ⟨schedule, hlast, hended, hkept⟩ := ih hnodup _ hrest
    refine ⟨List.replicate n i ++ schedule, ?_, ?_, ?_⟩
    · rw [turns_append, hlast, hservice, inOrder, inOrder, List.foldl_cons, hrun,
        hleft i List.mem_cons_self]
    · intro j hj
      rw [turns_append]
      rcases List.mem_cons.mp hj with rfl | hj
      · exact ⟨_, (congrArg Routine.ending? (hkept j hnotMem)).trans hending⟩
      · exact hended j hj
    · intro j hj
      rw [List.mem_cons, not_or] at hj
      rw [turns_append, hkept j hj.2, hothers j hj.1]

/-- Callers with slots of their own do not interfere. Every caller ends after enough steps of its
own. Whatever the schedule, a caller that has ended has come to what it comes to alone; and if all
have ended, the documents are those that are left when the routines are run one after the other, in
any order. -/
theorem turns_commute {slot : ι → Slot} {start : Callers Memory α}
    (hslots : Function.Injective slot)
    (hwithin : ∀ i, (start.left i).Within (slot i) fun _ => True) :
    (∀ i, ∃ enough, ∀ schedule : List ι, enough ≤ schedule.count i →
      (start.turns Memory.backend schedule).Ended i) ∧
    ∀ schedule,
      (∀ i, (start.turns Memory.backend schedule).Ended i →
        ((start.turns Memory.backend schedule).left i).ending? =
          some ((start.left i).run Memory.backend start.service).1) ∧
      ((∀ i, (start.turns Memory.backend schedule).Ended i) →
        ∀ order : List ι, order.Nodup → (∀ i, i ∈ order) →
          (start.turns Memory.backend schedule).service.state.Alike
            (inOrder Memory.backend start.left start.service order).state) := by
  constructor
  · intro i
    obtain ⟨enough, hending⟩ := (start.left i).exists_ending?_stepped Memory.backend start.service
    refine ⟨enough, ?_⟩
    intro schedule hcount
    -- The caller is where it would be alone, and there it has ended.
    rw [Ended, (turns_alone hslots hwithin schedule i).2.1,
      Routine.stepped_of_ending? hending hcount]
    exact ⟨_, hending⟩
  intro schedule
  constructor
  · intro i hended
    exact (ending?_eq_of_ended hslots hwithin hended).1
  · intro hended order hnodup hall
    -- One after the other is one of the schedules, and all of them leave the same documents.
    obtain ⟨other, hservice, hendedOther, -⟩ :=
      exists_schedule_inOrder Memory.backend hnodup start fun _ _ => rfl
    rw [← hservice]
    exact alike_turns hslots hwithin hended fun i => hendedOther i (hall i)

/-! ## Others at work -/

/-- Callers take steps in the order of a schedule, and in between others may do to the store what a
relation allows. Listed with the schedule are the callers that have put a document, in the order in
which they have. -/
inductive Reaches (allowed : Service σ → Service σ → Prop) (start : Callers σ α) :
    List ι → List ι → Callers σ α → Prop where
  /-- Nobody has taken a step. -/
  | start : Reaches allowed start [] [] start
  /-- A caller takes a step. -/
  | turn {schedule writers : List ι} {now : Callers σ α}
    (h : Reaches allowed start schedule writers now) (i : ι) :
    Reaches allowed start (schedule ++ [i])
      (if (now.left i).putsNext then writers ++ [i] else writers) (now.turn backend i)
  /-- Others are at work. -/
  | other {schedule writers : List ι} {now : Callers σ α} {after : Service σ}
    (h : Reaches allowed start schedule writers now) (hallowed : allowed now.service after) :
    Reaches allowed start schedule writers ⟨now.left, after⟩

/-- The others may be idle. -/
theorem exists_reaches_turns (allowed : Service σ → Service σ → Prop) (start : Callers σ α)
    (schedule : List ι) :
    ∃ writers, Reaches backend allowed start schedule writers (start.turns backend schedule) := by
  induction schedule using List.reverseRecOn with
  | nil => exact ⟨[], .start⟩
  | append_singleton schedule i ih =>
    obtain ⟨writers, h⟩ := ih
    rw [turns_concat]
    exact ⟨_, h.turn i⟩

end Callers

end KeyedStore
