import KeyedStore.Number.Shortest
import Mathlib.Tactic.Common

/-!
# The digits of shortest decimals

The shortest decimal of a double has no digits but zero only if it is zero itself, with no power of
ten. So no zero ever stands in front of other digits where a double is written.

- `mul_decimalPlaces_le`: the estimate of the leading digit is never too large;
- `shortest_eq_of_digits`: a decimal without digits is the plain zero.

## References

- SPEC_FULL.md, section 4.2, step 3 of loading: doubles in the intermediate text
-/

namespace KeyedStore.Binary64

/-- A quotient of at least one has at least the power of ten that is found. -/
theorem mul_decimalPlaces_le {numerator denominator : Nat} (h : denominator ≤ numerator)
    (bound : Nat) :
    denominator * Nat.pow 10 (decimalPlaces numerator denominator bound) ≤ numerator := by
  induction bound with
  | zero => simpa [decimalPlaces] using h
  | succ bound ih =>
    rw [decimalPlaces]
    split_ifs with hbound
    · exact hbound
    · exact ih

/-- The double of no digits lies at zero. -/
theorem units_ofDecimal_zero (negative : Bool) (exponent : Int) :
    (ofDecimal negative 0 exponent).units = 0 := by
  have hunits : ∀ denominator, (ofUnits negative 0 denominator).units = 0 := by
    intro denominator
    have hscale : Nat.log2 (0 / denominator) - 52 = 0 := by simp
    have hquotient : ∀ n, roundedQuotient 0 n = 0 := by
      intro n
      simp [roundedQuotient]
    simp only [ofUnits, hscale, hquotient]
    cases negative <;> rfl
  rw [ofDecimal]
  split_ifs <;> simp [hunits]

variable {x : Binary64}

/-- A decimal of a grid that reads back as a value other than zero has digits. -/
theorem digits_ne_zero_of_onGrid? {step : Int} {d : Decimal} (hx : x.units ≠ 0)
    (h : x.onGrid? step = some d) : d.digits ≠ 0 := by
  have hreads : ∀ digits, decide (ofDecimal x.isNegative digits step = x) = true → digits ≠ 0 := by
    rintro digits hdigits rfl
    rw [← of_decide_eq_true hdigits, units_ofDecimal_zero] at hx
    exact hx rfl
  rw [onGrid?] at h
  generalize x.neighbour step = found at h
  obtain ⟨below, position⟩ := found
  dsimp only at h
  -- The neighbour from above is never zero.
  split at h
  · exact absurd h (by simp)
  · rename_i hbelow _
    rw [← Option.some.inj h]
    exact hreads below hbelow
  · rw [← Option.some.inj h]
    exact Nat.succ_ne_zero below
  · rename_i hbelow _
    rw [← Option.some.inj h]
    dsimp only
    split_ifs
    · exact Nat.succ_ne_zero below
    · exact hreads below hbelow

/-- A multiple of a power of ten on one side outweighs a smaller one on the other. -/
theorem mul_pow_le_mul_pow {a b places shift up down : Nat}
    (h : a * Nat.pow 10 places ≤ b * Nat.pow 10 shift) (hsum : up + shift ≤ down + places) :
    a * Nat.pow 10 up ≤ b * Nat.pow 10 down := by
  simp only [Nat.pow_eq] at h ⊢
  refine Nat.le_of_mul_le_mul_right ?_ (show 0 < 10 ^ places from Nat.pow_pos (by decide))
  calc a * 10 ^ up * 10 ^ places
      = a * 10 ^ places * 10 ^ up := Nat.mul_right_comm ..
    _ ≤ b * 10 ^ shift * 10 ^ up := Nat.mul_le_mul_right _ h
    _ = b * 10 ^ (up + shift) := by rw [Nat.mul_assoc, ← Nat.pow_add, Nat.add_comm]
    _ ≤ b * 10 ^ (down + places) :=
      Nat.mul_le_mul_left b (Nat.pow_le_pow_right (by decide) hsum)
    _ = b * 10 ^ down * 10 ^ places := by rw [Nat.pow_add, Nat.mul_assoc]

/-- Sixteen places behind the leading one there are digits. -/
theorem neighbour_leadingPower_ne_zero (hx : x.units ≠ 0) :
    (x.neighbour (x.leadingPower - 16)).1 ≠ 0 := by
  have hone : one ≤ x.units * Nat.pow 10 324 := by
    have hpowers : one ≤ Nat.pow 10 324 := by decide +kernel
    exact Nat.le_trans hpowers (Nat.le_mul_of_pos_left _ (Nat.pos_of_ne_zero hx))
  have hplaces := mul_decimalPlaces_le hone
    (Nat.log2 (x.units * Nat.pow 10 324 / one) * 30103 / 100000 + 2)
  have hpos : 0 < one := by decide +kernel
  rw [neighbour, leadingPower]
  generalize decimalPlaces (x.units * Nat.pow 10 324) one _ = places at hplaces ⊢
  -- What has been multiplied by a power of ten is divided by the same power again.
  have hle := mul_pow_le_mul_pow hplaces
    (show ((places : Int) - 324 - 16).toNat + 324 ≤ (-((places : Int) - 324 - 16)).toNat + places by
      omega)
  exact Nat.pos_iff_ne_zero.mp (Nat.div_pos hle (Nat.mul_pos hpos (Nat.pow_pos (by decide))))

/-- A decimal other than zero keeps a digit when zeros at its end are taken away. -/
theorem strip_digits_ne_zero {d : Decimal} (h : d.digits ≠ 0) (bound : Nat) :
    (strip bound d).digits ≠ 0 := by
  induction bound generalizing d with
  | zero => exact h
  | succ bound ih =>
    rw [strip]
    split_ifs with hstrip
    · exact ih (show d.digits / 10 ≠ 0 by omega)
    · exact h

/-- A shortest decimal without digits is the plain zero. -/
theorem shortest_eq_of_digits (h : x.shortest.digits = 0) : x.shortest = ⟨0, 0⟩ := by
  by_cases hx : x.units = 0
  · rw [shortest, if_pos hx]
  · refine absurd h ?_
    rw [shortest, if_neg hx]
    refine strip_digits_ne_zero ?_ 17
    -- The decimal is the first one that reads back, or else the one with the most places.
    cases hfound : (List.range 17).findSome? fun (more : Nat) => x.onGrid? (x.leadingPower - more)
    with
    | none => exact neighbour_leadingPower_ne_zero hx
    | some d =>
      obtain ⟨more, -, hgrid⟩ := List.exists_of_findSome?_eq_some hfound
      exact digits_ne_zero_of_onGrid? hx hgrid

end KeyedStore.Binary64
