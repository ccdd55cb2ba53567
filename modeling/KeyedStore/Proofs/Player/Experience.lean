import KeyedStore.Player.Level
import Mathlib.Algebra.Order.BigOperators.Group.List
import Mathlib.Algebra.Order.Group.Int
import Mathlib.Data.Nat.Sqrt
import Mathlib.Tactic.IntervalCases
import Mathlib.Tactic.Ring

/-!
# Sums of experience

A reward is added exactly and the sum is clamped to the range from zero to the greatest amount. A
level goes by the root of the experience, so more experience never means a lower level. Rewards that
take nothing away can only come to a halt at the top of the range, so it is their sum that matters
and not their order or how they are shared out.

- `root_eq_sqrt`, `level_mono`: levels grow with the experience;
- `toInt_add`: a reward is added exactly, and clamped;
- `toInt_foldl_add`: rewards that take nothing away are summed exactly, and clamped once.

## References

- SPEC_FULL.md, section 10.7: experience never drops below zero
-/

namespace KeyedStore.Experience

/-! ## Levels -/

/-- The root of a quarter, doubled, is the root or one less. -/
theorem root_eq_sqrt (n : Nat) : root n = n.sqrt := by
  fun_induction root n with
  | case1 n h =>
    refine Nat.eq_sqrt.mpr ?_
    interval_cases n <;> decide
  | case2 n h doubled hnext ih =>
    obtain ⟨-, habove⟩ := Nat.eq_sqrt.mp ih
    refine Nat.eq_sqrt.mpr ⟨hnext, ?_⟩
    -- The number after the next one is twice a number whose square is beyond the quarter.
    have hfour : (doubled + 1 + 1) * (doubled + 1 + 1) =
        4 * ((root (n / 4) + 1) * (root (n / 4) + 1)) := by
      ring
    omega
  | case3 n h doubled hnext ih =>
    obtain ⟨hbelow, -⟩ := Nat.eq_sqrt.mp ih
    refine Nat.eq_sqrt.mpr ⟨?_, Nat.lt_of_not_le hnext⟩
    have hfour : doubled * doubled = 4 * (root (n / 4) * root (n / 4)) := by
      ring
    omega

/-- More experience never means a lower level. -/
theorem level_mono {less more : Int} (h : less ≤ more) : level less ≤ level more := by
  rw [level, level]
  by_cases hmore : more ≤ 0
  · rw [if_pos hmore, if_pos (h.trans hmore)]
  · rw [if_neg hmore]
    split
    · -- Nobody is below the first level.
      exact le_min (Nat.le_add_left 1 _) (by decide)
    · have hquotient : less.toNat / base ≤ more.toNat / base :=
        Nat.div_le_div_right (Int.toNat_le_toNat h)
      rw [root_eq_sqrt, root_eq_sqrt]
      exact min_le_min_right _ (Nat.add_le_add_right (Nat.sqrt_le_sqrt hquotient) 1)

/-! ## Sums -/

/-- A number is clamped to the range of the machine integers. -/
theorem toInt_ofIntClamp (n : Int) :
    (Int64.ofIntClamp n).toInt = max Int64.minValue.toInt (min n Int64.maxValue.toInt) := by
  have hrange : Int64.minValue.toInt ≤ Int64.maxValue.toInt := by decide
  rw [Int64.ofIntClamp]
  split
  · split
    · rw [Int64.toInt_ofIntLE]
      omega
    · omega
  · omega

/-- An amount is cut off at zero as its whole number is. -/
theorem toInt_max_zero (amount : Int64) : (max amount 0).toInt = max 0 amount.toInt := by
  have hzero : amount ≤ 0 ↔ amount.toInt ≤ 0 := Int64.le_iff_toInt_le
  rw [show max amount 0 = if amount ≤ 0 then 0 else amount from rfl]
  split
  · rename_i h
    exact (max_eq_left (hzero.mp h)).symm
  · rename_i h
    exact (max_eq_right (Int.le_of_lt (not_le.mp fun hle => h (hzero.mpr hle)))).symm

/-- A reward is added exactly, and the sum is clamped to the amounts that are not negative. -/
theorem toInt_add (experience reward : Int64) :
    (add experience reward).toInt =
      max 0 (min (experience.toInt + reward.toInt) Int64.maxValue.toInt) := by
  have hzero : Int64.minValue.toInt ≤ 0 := by decide
  rw [add, toInt_max_zero, toInt_ofIntClamp, ← max_assoc, max_eq_left hzero]

/-- A reward that takes nothing away is never lost below zero. -/
theorem toInt_add_of_nonneg {experience reward : Int64} (hexperience : 0 ≤ experience.toInt)
    (hreward : 0 ≤ reward.toInt) :
    (add experience reward).toInt = min (experience.toInt + reward.toInt) Int64.maxValue.toInt := by
  have hmax : 0 ≤ Int64.maxValue.toInt := by decide
  rw [toInt_add]
  exact max_eq_right (le_min (Int.add_nonneg hexperience hreward) hmax)

/-- Rewards that take nothing away are summed exactly, and the sum is clamped once: whatever is over
the top is over the top for all that is still to come. -/
theorem toInt_foldl_add {rewards : List Int64} (hrewards : ∀ reward ∈ rewards, 0 ≤ reward.toInt)
    {experience : Int64} (hexperience : 0 ≤ experience.toInt) :
    (rewards.foldl add experience).toInt =
      min (experience.toInt + (rewards.map Int64.toInt).sum) Int64.maxValue.toInt := by
  induction rewards generalizing experience with
  | nil =>
    rw [List.foldl_nil, List.map_nil, List.sum_nil, Int.add_zero]
    exact (min_eq_left experience.toInt_le).symm
  | cons reward rewards ih =>
    have hreward : 0 ≤ reward.toInt := hrewards reward List.mem_cons_self
    have hrest : ∀ other ∈ rewards, 0 ≤ other.toInt :=
      fun other hother => hrewards other (List.mem_cons_of_mem _ hother)
    have hsum : 0 ≤ (rewards.map Int64.toInt).sum := by
      refine List.sum_nonneg fun n hn => ?_
      obtain ⟨other, hother, rfl⟩ := List.mem_map.mp hn
      exact hrest other hother
    have hadd := toInt_add_of_nonneg hexperience hreward
    have hnext : 0 ≤ (add experience reward).toInt := by
      rw [toInt_add]
      exact le_max_left _ _
    -- What the first reward loses at the top the sum of all of them would lose there, too, because
    -- the others do not come below it again.
    rw [List.foldl_cons, ih hrest hnext, hadd, List.map_cons, List.sum_cons]
    omega

end KeyedStore.Experience
