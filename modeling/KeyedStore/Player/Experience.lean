/-!
# Experience and levels

The level of an amount of experience. Level `n` begins at `100 · (n - 1) ^ 2`, so the level is one
more than the root of a hundredth of the experience, cut off to a whole number. An amount that is
not positive is level 1.

## References

- SPEC_FULL.md, section 10.7, levels and their floors: `level_for_experience`,
  `experience_for_level`, `add_experience`
-/

namespace KeyedStore.Experience

/-- The experience between the beginnings of the first two levels. -/
def base : Nat := 100

/-- The greatest amount of experience. -/
def greatest : Nat := 9223372036854775807

/-- The highest level. -/
def highest : Nat := 4294967295

/-- The greatest number whose square is at most `n`. The root of a quarter, doubled, is the root or
one less. -/
def root (n : Nat) : Nat :=
  if n < 4 then min n 1
  else
    -- The root of a quarter is half the root, cut off, so only the next number is in question.
    let doubled := 2 * root (n / 4)
    if (doubled + 1) * (doubled + 1) ≤ n then doubled + 1 else doubled
termination_by n
decreasing_by omega

/-- The level of an amount of experience. -/
def level (experience : Int) : Nat :=
  if experience ≤ 0 then 1 else min (root (experience.toNat / base) + 1) highest

/-- The experience at which a level begins, at most the greatest amount. -/
def floor (level : Nat) : Nat :=
  min (base * ((level - 1) * (level - 1))) greatest

/-- An amount after a reward, never below zero. A sum that is out of range is the end of the range
that it is beyond. -/
def add (experience reward : Int64) : Int64 :=
  max (Int64.ofIntClamp (experience.toInt + reward.toInt)) 0

end KeyedStore.Experience
