import KeyedStore.Calendar.Instant
import KeyedStore.Text.Digits

/-!
# Instants as text

The text of an instant is its date, the letter T, its time and the letter Z. A year of more than
four digits and a year before year 0 have a sign. A leap second is shown as second 60.

## References

- SPEC_FULL.md, section 6, the format of dates; section 10.4, the precision to the millisecond
  (`format_instant_millis`)
-/

namespace KeyedStore

open Text

/-- A year in four digits, or with its sign where that is not enough. -/
def yearText (year : Int) : List Char :=
  if 0 ≤ year ∧ year ≤ 9999 then padded 4 year.toNat
  else (if year < 0 then '-' else '+') :: padded 4 year.natAbs

namespace Instant

/-- The date and the time of day, to the second. -/
def clockText (instant : Instant) : List Char :=
  let date := Date.ofDays instant.days
  let second := instant.secondOfDay
  let shown := second % 60 + if instant.isLeap then 1 else 0
  yearText date.year ++ ['-'] ++ padded 2 date.month ++ ['-'] ++ padded 2 date.day ++ ['T'] ++
    padded 2 (second / 3600) ++ [':'] ++ padded 2 (second / 60 % 60) ++ [':'] ++ padded 2 shown

/-- The digits after the point: none, three, six or nine, the fewest that are exact. -/
def fractionText (nanos : Nat) : List Char :=
  if nanos = 0 then []
  else if nanos % 1000000 = 0 then '.' :: padded 3 (nanos / 1000000)
  else if nanos % 1000 = 0 then '.' :: padded 6 (nanos / 1000)
  else '.' :: padded 9 nanos

/-- The text of an instant, exact to the nanosecond. -/
def exactText (instant : Instant) : String :=
  String.ofList (instant.clockText ++ fractionText instant.shownNanos ++ ['Z'])

/-- The text of an instant to the millisecond. -/
def millisText (instant : Instant) : String :=
  String.ofList
    (instant.clockText ++ '.' :: padded 3 (instant.shownNanos / 1000000) ++ ['Z'])

end Instant

/-- The text of a number of milliseconds since the beginning of 1970. -/
def timestampOfMillis? (millis : Int) : Option String :=
  (Instant.ofMillis? millis).map Instant.millisText

end KeyedStore
