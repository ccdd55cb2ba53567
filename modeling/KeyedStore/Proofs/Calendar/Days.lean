import Mathlib.Tactic.Ring
import KeyedStore.Calendar.Instant

/-!
# Days and dates

`Date.ofDays` and `Date.toDays` convert between counted days and dates. This file shows that a day
is counted the same after it has been written as a date, and that this date exists.

Four hundred years that begin in March are cut into centuries, the centuries into groups of four
years, and those into years; only the last year of a group can have a leap day at its end. Every
day has such a decomposition (`exists_yearOfEra`), and the formula of `Date.ofDays` computes it
(`yearOfEra_eq`).

- `toDays_ofDays`: the date of a day is counted as that day;
- `isValid_ofDays`: its month and its day of the month exist;
- `year_ofDays_mem`: the dates of instants have years of at most six digits.

## References

- SPEC_FULL.md, section 8, Date fidelity
-/

namespace KeyedStore.Date

/-! ## The years of an era -/

/-- A year that begins in March of the year `year` has a day with the number `dayOfYear`, counted
from zero: the last of the days is the leap day of the year after. -/
def HasDay (year dayOfYear : Int) : Prop :=
  0 ≤ dayOfYear ∧ (dayOfYear ≤ 364 ∨
    dayOfYear = 365 ∧ (year + 1) % 4 = 0 ∧ ((year + 1) % 100 ≠ 0 ∨ (year + 1) % 400 = 0))

/-- A day of an era by its century, its group of four years in the century, its year in the group
and its day in the year. -/
structure Position (dayOfEra century group year dayOfYear : Int) : Prop where
  century_mem : 0 ≤ century ∧ century ≤ 3
  group_mem : 0 ≤ group ∧ group ≤ 24
  year_mem : 0 ≤ year ∧ year ≤ 3
  hasDay : HasDay (100 * century + 4 * group + year) dayOfYear
  eq : dayOfEra = 36524 * century + 1461 * group + 365 * year + dayOfYear

/-- Every day of an era has a century, a group of years, a year and a place in the year. -/
theorem exists_position {dayOfEra : Int} (hlow : 0 ≤ dayOfEra) (hhigh : dayOfEra ≤ 146096) :
    ∃ century group year dayOfYear, Position dayOfEra century group year dayOfYear := by
  -- The last day of the era belongs to the last century, which is a day longer than the others.
  obtain ⟨century, hcentury, hrestLow, hrest⟩ : ∃ century, (0 ≤ century ∧ century ≤ 3) ∧
      0 ≤ dayOfEra - 36524 * century ∧ (dayOfEra - 36524 * century ≤ 36523 ∨
        dayOfEra - 36524 * century = 36524 ∧ century = 3) := by
    by_cases h : dayOfEra = 146096
    · exact ⟨3, by omega⟩
    · exact ⟨dayOfEra / 36524, by omega⟩
  generalize hday : dayOfEra - 36524 * century = rest at *
  -- Likewise the last day of a group belongs to its last year.
  obtain ⟨year, hyear, hlowDay, hhighDay⟩ : ∃ year, (0 ≤ year ∧ year ≤ 3) ∧
      0 ≤ rest % 1461 - 365 * year ∧ (rest % 1461 - 365 * year ≤ 364 ∨
        rest % 1461 - 365 * year = 365 ∧ year = 3) := by
    by_cases h : rest % 1461 = 1460
    · exact ⟨3, by omega⟩
    · exact ⟨rest % 1461 / 365, by omega⟩
  refine ⟨century, rest / 1461, year, rest % 1461 - 365 * year, hcentury, by omega, hyear, ?_,
    by omega⟩
  unfold HasDay
  omega

/-- The formula for the year of an era finds the year in which a day lies. -/
theorem Position.yearOfEra_eq {dayOfEra century group year dayOfYear : Int}
    (h : Position dayOfEra century group year dayOfYear) :
    (dayOfEra - dayOfEra / 1460 + dayOfEra / 36524 - dayOfEra / 146096) / 365 =
      100 * century + 4 * group + year := by
  obtain ⟨hcentury, hgroup, hyear, hday, heq⟩ := h
  unfold HasDay at hday
  -- The three corrections of the formula, each by the parts of the day.
  have hleaps : dayOfEra / 1460 =
      25 * century + group + (group + 24 * century + 365 * year + dayOfYear) / 1460 := by omega
  have hcenturies : dayOfEra / 36524 - dayOfEra / 146096 = century := by
    -- Only the last day of the era stands behind its fourth century.
    by_cases hlast : dayOfEra = 146096
    · omega
    · have hshort : dayOfEra ≤ 36524 * century + 36523 := by omega
      omega
  omega

/-! ## The months of a year -/

/-- The date of a day of a year that begins in March. -/
def ofYearDay (year dayOfYear : Int) : Date :=
  let month := (5 * dayOfYear + 2) / 153
  let monthOfYear := if month < 10 then month + 3 else month - 9
  ⟨if monthOfYear ≤ 2 then year + 1 else year, monthOfYear.toNat,
    (dayOfYear - (153 * month + 2) / 5 + 1).toNat⟩

/-- Within its era, a day is as far from the beginning of its year as its position says. -/
theorem Position.dayOfYear_eq {dayOfEra century group year dayOfYear : Int}
    (h : Position dayOfEra century group year dayOfYear) :
    dayOfEra - (365 * (100 * century + 4 * group + year) + (100 * century + 4 * group + year) / 4 -
      (100 * century + 4 * group + year) / 100) = dayOfYear := by
  obtain ⟨hcentury, hgroup, hyear, -, heq⟩ := h
  omega

/-- The date of a day is the date of its day in the year that begins in March. -/
theorem exists_ofDays_eq (days : Int) : ∃ year dayOfYear, HasDay year dayOfYear ∧
    days = 365 * year + year / 4 - year / 100 + year / 400 + dayOfYear - 719468 ∧
    ofDays days = ofYearDay year dayOfYear := by
  generalize hera : (days + 719468) / 146097 = era
  generalize hdayOfEra : (days + 719468) % 146097 = dayOfEra
  -- The remainder is a day of the first era, and the quotient counts the eras before.
  obtain ⟨century, group, year, dayOfYear, h⟩ := exists_position
    (show 0 ≤ dayOfEra by omega) (show dayOfEra ≤ 146096 by omega)
  refine ⟨100 * century + 4 * group + year + era * 400, dayOfYear, ?_, ?_, ?_⟩
  · have hday := h.hasDay
    unfold HasDay at *
    omega
  · obtain ⟨hcentury, hgroup, hyear, -, heq⟩ := h
    omega
  · unfold ofDays ofYearDay
    simp only [hera, hdayOfEra, h.yearOfEra_eq, h.dayOfYear_eq]

/-- The date of a day of a year is counted as that day: whole years with their leap days, and the
days since the first of March. -/
theorem toDays_ofYearDay {year dayOfYear : Int} (h : HasDay year dayOfYear) :
    (ofYearDay year dayOfYear).toDays =
      365 * year + year / 4 - year / 100 + year / 400 + dayOfYear - 719468 := by
  unfold HasDay at h
  have hmonth : 0 ≤ (5 * dayOfYear + 2) / 153 ∧ (5 * dayOfYear + 2) / 153 ≤ 11 := by omega
  have hday : 0 ≤ dayOfYear - (153 * ((5 * dayOfYear + 2) / 153) + 2) / 5 + 1 := by omega
  unfold ofYearDay toDays
  simp only
  generalize (5 * dayOfYear + 2) / 153 = month at *
  -- January and February, the last two months, belong to the next year.
  by_cases hlate : month < 10
  · have hspring : ¬ (month + 3 ≤ 2) := by omega
    have hnat : ¬ ((month + 3).toNat ≤ 2) ∧ 2 < (month + 3).toNat := by omega
    simp only [hlate, hspring, hnat, ↓reduceIte]
    omega
  · have hwinter : month - 9 ≤ 2 := by omega
    have hnat : (month - 9).toNat ≤ 2 ∧ ¬ (2 < (month - 9).toNat) := by omega
    simp only [hlate, hwinter, hnat, ↓reduceIte]
    omega

/-- The date of a day that there is has a month and a day of the month that there are. -/
theorem isValid_ofYearDay {year dayOfYear : Int} (h : HasDay year dayOfYear) :
    (ofYearDay year dayOfYear).isValid = true := by
  unfold HasDay at h
  have hmonth : 0 ≤ (5 * dayOfYear + 2) / 153 ∧ (5 * dayOfYear + 2) / 153 ≤ 11 := by omega
  have hlow : (153 * ((5 * dayOfYear + 2) / 153) + 2) / 5 ≤ dayOfYear := by omega
  have hhigh : dayOfYear < (153 * ((5 * dayOfYear + 2) / 153 + 1) + 2) / 5 := by omega
  unfold ofYearDay isValid monthLength isLeap
  simp only
  generalize (5 * dayOfYear + 2) / 153 = month at *
  -- The lengths of the months follow no formula, so each month is looked at.
  obtain rfl | rfl | rfl | rfl | rfl | rfl | rfl | rfl | rfl | rfl | rfl | rfl : month = 0 ∨
      month = 1 ∨ month = 2 ∨ month = 3 ∨ month = 4 ∨ month = 5 ∨ month = 6 ∨ month = 7 ∨
      month = 8 ∨ month = 9 ∨ month = 10 ∨ month = 11 := by omega
  all_goals simp
  all_goals omega

/-- The year of a date is the one that began in March, or the next one from January on. -/
theorem year_ofYearDay {year dayOfYear : Int} (h : HasDay year dayOfYear) :
    (ofYearDay year dayOfYear).year = if dayOfYear < 306 then year else year + 1 := by
  unfold HasDay at h
  unfold ofYearDay
  simp only
  split <;> split <;> split <;> omega

/-! ## Days and dates -/

/-- The date of a day is counted as that day. -/
theorem toDays_ofDays (days : Int) : (ofDays days).toDays = days := by
  obtain ⟨year, dayOfYear, h, hdays, heq⟩ := exists_ofDays_eq days
  rw [heq, toDays_ofYearDay h, ← hdays]

/-- The date of a day exists. -/
theorem isValid_ofDays (days : Int) : (ofDays days).isValid = true := by
  obtain ⟨year, dayOfYear, h, -, heq⟩ := exists_ofDays_eq days
  rw [heq]
  exact isValid_ofYearDay h

/-- The number of days before a March grows with the year. -/
theorem leapDays_mono {first second : Int} (h : first ≤ second) :
    first / 4 - first / 100 + first / 400 ≤ second / 4 - second / 100 + second / 400 := by
  -- Counted in centuries, one of the two subtracted terms is taken back by the years in between.
  have hfirst : first / 400 = first / 100 / 4 := by omega
  have hsecond : second / 400 = second / 100 / 4 := by omega
  have hfours : first / 4 = 25 * (first / 100) + first % 100 / 4 := by omega
  have hfours' : second / 4 = 25 * (second / 100) + second % 100 / 4 := by omega
  have hcentury : first / 100 ≤ second / 100 := by omega
  rcases hcentury.lt_or_eq with hlt | heq
  · omega
  · omega

/-- The days from the first of January -262143 to the last of December 262142 have dates in these
years. -/
theorem year_ofDays_mem {days : Int} (hlow : -96465292 ≤ days) (hhigh : days ≤ 95026236) :
    -262143 ≤ (ofDays days).year ∧ (ofDays days).year ≤ 262142 := by
  obtain ⟨year, dayOfYear, h, hdays, heq⟩ := exists_ofDays_eq days
  rw [heq, year_ofYearDay h]
  unfold HasDay at h
  -- Another year would begin or end on the wrong side of the given days.
  constructor
  · by_contra hyear
    have hyear' : year ≤ -262144 ∧ (year ≤ -262145 ∨ dayOfYear ≤ 305) := by
      split at hyear <;> omega
    have := leapDays_mono hyear'.1
    omega
  · by_contra hyear
    have hyear' : 262142 ≤ year ∧ (262143 ≤ year ∨ 306 ≤ dayOfYear) := by
      split at hyear <;> omega
    have := leapDays_mono hyear'.1
    omega

end KeyedStore.Date
