import KeyedStore.Proofs.Player.Experience
import Mathlib.Analysis.Real.Sqrt

/-!
# Levels and their floors

A level has been reached exactly if the experience at which it begins has been reached. The
quotient, the root and the two bounds of the program never come between the two: over the whole
range of amounts no level is cut off at the highest one, and a floor that is an amount at all is
exact.

- `le_root_div_iff`: the root of a quotient, both cut off, is cut off only once;
- `level_eq`, `floor_eq`: where neither levels nor floors are cut off by their bounds;
- `le_level_iff`: a level has been reached exactly if its floor has been;
- `level_eq_floor_sqrt`: the level by the root of a real number;
- `levels_match_floors`: levels and floors determine each other.

## References

- SPEC_FULL.md, section 10.7, levels and their floors
-/

namespace KeyedStore.Experience

/-- The root of a quotient, both cut off to whole numbers, is the greatest number whose square,
times the divisor, is at most the amount. -/
theorem le_root_div_iff (n amount : Nat) : n ≤ root (amount / base) ↔ base * n ^ 2 ≤ amount := by
  have hbase : 0 < base := by decide
  rw [root_eq_sqrt, Nat.le_sqrt', Nat.le_div_iff_mul_le hbase, Nat.mul_comm]

/-- No amount of experience goes beyond the highest level. -/
theorem level_eq {amount : Nat} (h : amount ≤ greatest) :
    level amount = root (amount / base) + 1 := by
  -- The square of the highest level, times a hundred, is far beyond every amount.
  have hroot : root (amount / base) < highest := by
    by_contra hhighest
    have hsquare := (le_root_div_iff highest amount).mp (Nat.le_of_not_lt hhighest)
    have hbeyond : greatest < base * highest ^ 2 := by decide
    omega
  rw [level]
  split
  · -- Without experience the root is zero, so the case of its own agrees with the others.
    rename_i hzero
    obtain rfl : amount = 0 := by omega
    rw [Nat.zero_div, root_eq_sqrt, Nat.sqrt_zero]
  · rw [Int.toNat_natCast]
    exact min_eq_left hroot

/-- A floor is a square in hundreds, cut off at the greatest amount. -/
theorem floor_eq_min (n : Nat) : floor n = min (base * (n - 1) ^ 2) greatest := by
  rw [floor, ← pow_two]

/-- A floor that is an amount of experience is exact. -/
theorem floor_eq {n : Nat} (h : base * (n - 1) ^ 2 ≤ greatest) : floor n = base * (n - 1) ^ 2 := by
  rw [floor_eq_min, min_eq_left h]

/-- A level has been reached exactly if its floor has been reached. -/
theorem le_level_iff {n amount : Nat} (hn : 1 ≤ n) (hamount : amount ≤ greatest) :
    n ≤ level amount ↔ base * (n - 1) ^ 2 ≤ amount := by
  rw [level_eq hamount, ← le_root_div_iff]
  omega

/-- A level whose floor is an amount of experience is the level of its floor. -/
theorem level_floor {n : Nat} (hn : 1 ≤ n) (h : base * (n - 1) ^ 2 ≤ greatest) :
    level (floor n) = n := by
  rw [floor_eq h]
  -- It has been reached by an amount exactly if it is not above `n`.
  refine eq_of_forall_le_iff fun m => ?_
  rcases Nat.eq_zero_or_pos m with rfl | hm
  · exact iff_of_true (Nat.zero_le _) (Nat.zero_le _)
  · have hbase : 0 < base := by decide
    rw [le_level_iff hm h, Nat.mul_le_mul_left_iff hbase, Nat.pow_le_pow_iff_left two_ne_zero]
    omega

/-- The level is one more than the root of a hundredth of the experience, a real number, of which
only the whole part counts. -/
theorem level_eq_floor_sqrt {amount : Nat} (h : amount ≤ greatest) :
    level amount = ⌊√((amount : ℝ) / base)⌋₊ + 1 := by
  have hbase : (0 : ℝ) < base := by norm_num [base]
  have hquotient : (0 : ℝ) ≤ amount / base := by positivity
  rw [level_eq h]
  congr 1
  -- Both sides are told by the numbers that are not above them.
  refine eq_of_forall_le_iff fun n => ?_
  rw [le_root_div_iff, Nat.le_floor_iff (Real.sqrt_nonneg _), Real.le_sqrt n.cast_nonneg hquotient,
    le_div_iff₀ hbase, mul_comm]
  exact_mod_cast Iff.rfl

/-- Levels and floors determine each other. Every level whose floor is an amount of experience has
that floor exactly, has been reached exactly by those who have reached the floor, and is the level
of its floor. The level is the exact root, and it grows with the experience. -/
theorem levels_match_floors {experience : Int64} (h : 0 ≤ experience.toInt) :
    (∀ n, 1 ≤ n → base * (n - 1) ^ 2 ≤ greatest →
      floor n = base * (n - 1) ^ 2 ∧
      (n ≤ level experience.toInt ↔ (floor n : Int) ≤ experience.toInt) ∧
      level (floor n) = n) ∧
    level experience.toInt = ⌊√((experience.toInt : ℝ) / base)⌋₊ + 1 ∧
    ∀ more : Int64, experience.toInt ≤ more.toInt →
      level experience.toInt ≤ level more.toInt := by
  -- The amount is a natural number in the range of amounts.
  obtain ⟨amount, hamount⟩ := Int.eq_ofNat_of_zero_le h
  have hgreatest : amount ≤ greatest := by
    have hmax := experience.toInt_lt
    rw [hamount] at hmax
    unfold greatest
    omega
  rw [hamount]
  refine ⟨fun n hn hfloor => ⟨floor_eq hfloor, ?_, level_floor hn hfloor⟩, ?_, ?_⟩
  · rw [le_level_iff hn hgreatest, floor_eq hfloor]
    exact Nat.cast_le.symm
  · exact level_eq_floor_sqrt hgreatest
  · exact fun more hmore => level_mono hmore

/-- The highest level that there is an amount for is that of the greatest amount. -/
theorem levels_match_floors_top :
    let top := Int64.maxValue.toInt
    floor 303700050 = 9223371976260240100 ∧ 303700050 ≤ level top ∧
      level (floor 303700050) = 303700050 ∧ level 0 ≤ level top := by
  intro top
  have htop : 0 ≤ top := by decide
  obtain ⟨hlevels, -, -⟩ := levels_match_floors htop
  obtain ⟨hfloor, hreached, hlevel⟩ := hlevels 303700050 (by decide) (by decide)
  have hbelow : (floor 303700050 : Int) ≤ top := by
    rw [hfloor]
    decide
  have hzero : 0 ≤ Int64.toInt 0 := by decide
  obtain ⟨-, -, hmono⟩ := levels_match_floors hzero
  exact ⟨hfloor, hreached.mpr hbelow, hlevel, hmono Int64.maxValue (by decide)⟩

end KeyedStore.Experience
