import KeyedStore.Proofs.Player.Levels

/-!
# Progress within a level

The experience of a player is the floor of the level and what has been gained since. Below the last
level that there is an amount for, the next floor is exact, so the way through a level is an odd
multiple of a hundred and is never gone to its end. The floor above the last level is beyond every
amount and is cut off at the greatest one: the last level is as long as there are amounts left, and
the greatest amount alone is at its end.

- `floor_level_le`, `le_floor_succ`: an amount stands between the floor of its level and the next;
- `floor_succ_sub`, `floor_succ_lastLevel`: how far it is from one floor to the next;
- `Measures`, `progress_consistent`: what the progress of a player comes to.

## References

- SPEC_FULL.md, section 10.7, `get_player_experience`
-/

namespace KeyedStore.Experience

/-- The last level that there is an amount of experience for. -/
def lastLevel : Nat := 303700050

/-- The greatest amount of experience is in the last level. -/
theorem level_greatest : level greatest = lastLevel := by
  have hreached : lastLevel ≤ level greatest := (le_level_iff (by decide) le_rfl).mpr (by decide)
  have hbeyond : ¬ lastLevel + 1 ≤ level greatest :=
    fun h => absurd ((le_level_iff (by decide) le_rfl).mp h) (by decide)
  omega

/-- There is no level below the first. -/
theorem one_le_level (amount : Nat) : 1 ≤ level amount := by
  rw [level]
  split
  · exact le_rfl
  · exact le_min (Nat.le_add_left 1 _) (by decide)

/-- No amount of experience is above the last level. -/
theorem level_le_lastLevel {amount : Nat} (h : amount ≤ greatest) : level amount ≤ lastLevel :=
  (level_mono (Int.ofNat_le.mpr h)).trans_eq level_greatest

/-- An amount has reached the floor of its level. -/
theorem floor_level_le {amount : Nat} (h : amount ≤ greatest) :
    floor (level amount) ≤ amount := by
  rw [floor_eq_min]
  exact (min_le_left _ _).trans ((le_level_iff (one_le_level amount) h).mp le_rfl)

/-- An amount has not reached the exact beginning of the next level. -/
theorem lt_next_level {amount : Nat} (h : amount ≤ greatest) :
    amount < base * level amount ^ 2 := by
  by_contra hreached
  have hnext : level amount + 1 ≤ level amount :=
    (le_level_iff (Nat.le_add_left 1 _) h).mpr (Nat.le_of_not_lt hreached)
  omega

/-- An amount has not come to the next floor, except that the greatest amount stands at the floor
that has been cut off. -/
theorem le_floor_succ {amount : Nat} (h : amount ≤ greatest) :
    amount ≤ floor (level amount + 1) ∧
      (amount = floor (level amount + 1) ↔ amount = greatest) := by
  have hnext := lt_next_level h
  rw [floor_eq_min, Nat.add_sub_cancel]
  omega

/-- Below the last level the way through a level is the difference of two squares that follow each
other. -/
theorem floor_succ_sub {n : Nat} (hn : 1 ≤ n) (h : n < lastLevel) :
    (floor (n + 1) : Int) - floor n = base * (2 * n - 1) := by
  rw [← level_greatest] at h
  have hnext : base * n ^ 2 ≤ greatest := (le_level_iff (Nat.le_add_left 1 n) le_rfl).mp h
  have hfloor : base * (n - 1) ^ 2 ≤ greatest := (le_level_iff hn le_rfl).mp h.le
  rw [floor_eq hfloor, floor_eq hnext, Nat.add_sub_cancel]
  obtain ⟨m, rfl⟩ := Nat.exists_eq_add_of_le' hn
  rw [Nat.add_sub_cancel]
  push_cast
  ring

/-- Behind the last level there are no amounts, so the next floor is cut off. -/
theorem floor_succ_lastLevel : floor (lastLevel + 1) = greatest := by
  rw [← level_greatest, floor_eq_min, Nat.add_sub_cancel]
  exact min_eq_right (lt_next_level le_rfl).le

/-- Progress that measures an amount of experience by the floor of its level and by the way to the
next one. -/
structure Measures (progress : LevelProgress) (experience : Int64) : Prop where
  /-- The amount is the floor of the level and what has been gained in the level. -/
  sum_eq : floor progress.level + progress.inLevel = experience.toInt
  /-- Nothing less than zero has been gained in the level. -/
  inLevel_nonneg : 0 ≤ progress.inLevel
  /-- No more has been gained in the level than it takes to leave it. -/
  inLevel_le : progress.inLevel ≤ progress.needed
  /-- No level is longer than there are amounts. -/
  needed_le : progress.needed ≤ greatest
  /-- Only the greatest amount is at the end of its level. -/
  inLevel_eq_iff : progress.inLevel = progress.needed ↔ experience = Int64.maxValue
  /-- No level is above the last one. -/
  level_le : progress.level ≤ lastLevel
  /-- Below the last level the way to the next one is the difference of the exact floors. -/
  needed_eq : progress.level < lastLevel → progress.needed = base * (2 * progress.level - 1)
  /-- The last level takes what amounts are left. -/
  needed_eq_of_last : progress.level = lastLevel → progress.needed = greatest - floor lastLevel

/-- The progress of every amount of experience measures it: no difference leaves the range of
amounts, and only the last level is shorter than its formula says. -/
theorem progress_consistent (playerId : String) (experience : Int64) (h : 0 ≤ experience.toInt) :
    Measures (.of playerId experience) experience := by
  obtain ⟨amount, hamount⟩ := Int.eq_ofNat_of_zero_le h
  have hgreatest : amount ≤ greatest := by
    have hmax := experience.toInt_lt
    rw [hamount] at hmax
    unfold greatest
    omega
  have htop : experience = Int64.maxValue ↔ (amount : Int) = greatest := by
    rw [← hamount, ← Int64.toInt_inj]
    exact Iff.rfl
  let progress := LevelProgress.of playerId experience
  have hlevel : progress.level = level amount := congrArg level hamount
  have hinLevel : progress.inLevel = amount - (floor (level amount) : Int) := by
    rw [← hlevel, ← hamount]
    rfl
  have hneeded : progress.needed = floor (level amount + 1) - (floor (level amount) : Int) := by
    rw [← hlevel]
    rfl
  -- The amount stands between the floor of its level and the next one, which is an amount, too.
  have hreached := floor_level_le hgreatest
  obtain ⟨hnext, hfull⟩ := le_floor_succ hgreatest
  have hfits : floor (level amount + 1) ≤ greatest := min_le_right _ _
  show Measures progress experience
  clear_value progress
  constructor <;> simp only [hlevel, hinLevel, hneeded, hamount, htop]
  case level_le => exact level_le_lastLevel hgreatest
  case needed_eq => exact floor_succ_sub (one_le_level amount)
  case needed_eq_of_last =>
    intro hlast
    rw [hlast, floor_succ_lastLevel]
  -- The other parts are sums and differences of the amount and the two floors around it.
  all_goals omega

/-- The greatest amount is at the end of the last level. -/
theorem progress_consistent_greatest :
    let top := LevelProgress.of "p" Int64.maxValue
    top.level = 303700050 ∧ top.inLevel = 60594535707 ∧ top.needed = 60594535707 := by
  intro top
  have hlevel : top.level = lastLevel := level_greatest
  have hmeasures := progress_consistent "p" Int64.maxValue (by decide)
  have hlength : top.needed = 60594535707 := by
    rw [hmeasures.needed_eq_of_last hlevel]
    decide
  exact ⟨hlevel, (hmeasures.inLevel_eq_iff.mpr rfl).trans hlength, hlength⟩

/-- It is not so that every level is as long as its formula says and never gone to its end: the
greatest amount has come to the end of a level that has been cut off. -/
theorem not_forall_progress_consistent :
    ¬ ∀ (playerId : String) (experience : Int64), 0 ≤ experience.toInt →
      let progress := LevelProgress.of playerId experience
      0 ≤ progress.inLevel ∧ progress.inLevel < progress.needed ∧
        progress.needed = base * (2 * progress.level - 1) ∧
        floor progress.level + progress.inLevel = experience.toInt := by
  intro h
  obtain ⟨-, hbelow, -, -⟩ := h "p" Int64.maxValue (by decide)
  have hend : (floor (level greatest + 1) : Int) = Int64.maxValue.toInt := by
    rw [level_greatest, floor_succ_lastLevel]
    rfl
  exact absurd hbelow (not_lt.mpr (sub_le_sub_right hend.le _))

end KeyedStore.Experience
