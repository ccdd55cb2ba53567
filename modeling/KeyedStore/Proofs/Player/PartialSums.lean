import KeyedStore.Proofs.Player.StatsRefinement
import Mathlib.Algebra.BigOperators.Group.Finset.Basic

/-!
# Counters and some of several awards

When awards are made at the same time some of them may be lost. What is left are the counters at the
start and the sums of the increments of some awards, each of them as a whole.

- `Counters.plus`: counters with some awards;
- `plus_insert`: one award more;
- `not_misread_of_plus`: whether they are taken for something else when they are stored.

## References

- SPEC_FULL.md, section 10.7, `award_player_stats`
-/

namespace KeyedStore

namespace Counters

variable {ι : Type} (counters : Counters) (increments : ι → NameMap Int64)

/-- What some awards add to a counter together. -/
def total (awards : Finset ι) (name : String) : Int :=
  ∑ i ∈ awards, (of (increments i) name).getD 0

/-- The counters with what some awards add. A counter is there if it was there before or if one of
the awards names it. -/
def plus (awards : Finset ι) : Counters := fun name =>
  if ∃ i ∈ awards, of (increments i) name ≠ none then
    some ((counters name).getD 0 + total increments awards name)
  else counters name

/-- No sum of some awards is beyond the range of a counter. -/
def AllFit : Prop :=
  ∀ (awards : Finset ι) (name : String),
    Fits ((counters name).getD 0 + total increments awards name)

/-- Counters with no awards are the counters. -/
@[simp]
theorem plus_empty : counters.plus increments ∅ = counters := by
  funext name
  rw [plus, if_neg (by simp)]

/-- A counter with awards is the counter and the sum of their increments to it. -/
theorem getD_plus (awards : Finset ι) (name : String) :
    (counters.plus increments awards name).getD 0 =
      (counters name).getD 0 + total increments awards name := by
  rw [plus]
  split_ifs with h
  · rfl
  · -- A counter that is not there is in none of the awards either.
    have hzero : total increments awards name = 0 := by
      apply Finset.sum_eq_zero
      intro i hi
      have hnone : of (increments i) name = none := by
        by_contra hne
        exact h ⟨i, hi, hne⟩
      rw [hnone, Option.getD_none]
    rw [hzero, Int.add_zero]

/-- Awards that add nothing fit. -/
theorem allFit_nothing (stats : NameMap Int64) : (of stats).AllFit fun _ : ι => .empty := by
  intro awards name
  have hzero : total (fun _ : ι => NameMap.empty) awards name = 0 :=
    Finset.sum_eq_zero fun _ _ => rfl
  rw [hzero, Int.add_zero, of]
  cases stats.get? name with
  | none => decide
  | some n => exact ⟨n.le_toInt, n.toInt_lt⟩

variable [DecidableEq ι] {counters increments}

/-- One award more is an award to the counters so far. -/
theorem plus_insert {awards : Finset ι} {i : ι} (h : i ∉ awards) :
    counters.plus increments (insert i awards) =
      (counters.plus increments awards).add (increments i) := by
  funext name
  have htotal : total increments (insert i awards) name =
      (of (increments i) name).getD 0 + total increments awards name :=
    Finset.sum_insert h
  rw [add]
  -- Either the award names the counter, or it adds nothing to it.
  cases hget : (increments i).get? name with
  | some increment =>
    have hof : of (increments i) name = some increment.toInt := by rw [of, hget, Option.map_some]
    have hnamed : ∃ j ∈ insert i awards, of (increments j) name ≠ none :=
      ⟨i, Finset.mem_insert_self i awards, by simp [hof]⟩
    rw [plus, if_pos hnamed, htotal, hof, Option.getD_some, Int.add_comm increment.toInt,
      ← Int.add_assoc, ← getD_plus]
    rfl
  | none =>
    have hof : of (increments i) name = none := by rw [of, hget, Option.map_none]
    have hnamed : (∃ j ∈ insert i awards, of (increments j) name ≠ none) ↔
        ∃ j ∈ awards, of (increments j) name ≠ none := by
      rw [Finset.exists_mem_insert]
      exact or_iff_right fun hne => hne hof
    simp only [plus, hnamed, htotal, hof, Option.getD_none, Int.zero_add]

/-- An award that is not among some awards does not overflow on top of them. -/
theorem AllFit.not_overflows (h : counters.AllFit increments) {awards : Finset ι} {i : ι}
    (hi : i ∉ awards) : ¬ (counters.plus increments awards).Overflows (increments i) := by
  rintro ⟨name, increment, hget, hover⟩
  have hof : of (increments i) name = some increment.toInt := by rw [of, hget, Option.map_some]
  have htotal : total increments (insert i awards) name =
      increment.toInt + total increments awards name := by
    rw [total, Finset.sum_insert hi, hof, Option.getD_some, ← total]
  -- The sum that would overflow is the sum of some awards, one more than before.
  apply hover
  rw [sum, getD_plus, Int.add_assoc, Int.add_comm _ increment.toInt, ← htotal]
  exact h (insert i awards) name

end Counters

/-! ## Sums that are taken for something else -/

namespace PlayerStats

open Counters

/-- Counters that are misread are a single one, with a dollar sign in front of its name. -/
theorem Misread.exists_pairs {stats : NameMap Int64} (h : Misread stats) :
    ∃ name n, HasDollar name ∧ stats.pairs = [(name, n)] := by
  rcases h with ⟨n, hdate⟩ | hmin | hmax
  · exact ⟨_, n, by decide, hdate⟩
  · exact ⟨_, 1, by decide, hmin⟩
  · exact ⟨_, 1, by decide, hmax⟩

/-- Whether counters are misread does not depend on how they are held. -/
theorem Misread.of_eq {first second : NameMap Int64} (h : Misread first)
    (heq : of first = of second) : Misread second := by
  have hget : ∀ name, first.get? name = second.get? name := by
    intro name
    exact Option.map_injective (fun _ _ => Int64.toInt_inj.mp) (congrFun heq name)
  -- Misread counters are a single pair, and a single pair has one order only.
  have hperm : first.pairs.Perm second.pairs :=
    Pairs.perm_of_get?_eq first.distinct second.distinct hget
  obtain ⟨name, n, -, hpairs⟩ := h.exists_pairs
  rw [hpairs] at hperm
  rwa [Misread, ← List.singleton_perm.mp hperm, ← hpairs]

variable {ι : Type} {initial : Counters} {increments : ι → NameMap Int64}

/-- Awards that name no counter with a dollar sign are taken for something else only if all of them
add nothing and the counters at the start were taken for it. -/
theorem not_misread_of_plus (hundollared : ∀ i, (of (increments i)).Undollared)
    (hkept : ∀ i, of (increments i) = .empty → ∀ stats, of stats = initial → ¬ Misread stats)
    {awards : Finset ι} {i : ι} (hi : i ∈ awards) {stats : NameMap Int64}
    (hstats : of stats = initial.plus increments awards) : ¬ Misread stats := by
  intro hmisread
  obtain ⟨name, n, hdollar, hpairs⟩ := hmisread.exists_pairs
  -- A counter that an award names would be the single one, which has a dollar sign.
  have hnone : ∀ j ∈ awards, ∀ other, of (increments j) other = none := by
    intro j hj other
    by_contra hne
    have hthere : of stats other ≠ none := by
      rw [hstats, plus, if_pos ⟨j, hj, hne⟩]
      simp
    obtain rfl : name = other := by
      by_contra hother
      exact hthere (by simp [of, NameMap.get?, hpairs, Pairs.get?, hother])
    exact hundollared j name hne hdollar
  have hempty : of (increments i) = .empty := funext (hnone i hi)
  have hinitial : of stats = initial := by
    rw [hstats]
    funext other
    rw [plus, if_neg]
    rintro ⟨j, hj, hne⟩
    exact hne (hnone j hj other)
  exact hkept i hempty stats hinitial hmisread

end PlayerStats

end KeyedStore
