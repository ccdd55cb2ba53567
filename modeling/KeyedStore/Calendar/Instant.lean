import KeyedStore.Calendar.Date

/-!
# Instants

A point in time by its seconds since the beginning of 1970 and the nanoseconds after them. A leap
second is the last second of its minute with a thousand million nanoseconds more. The instants
reach from the year -262143 to the year 262142.

## References

- SPEC_FULL.md, section 6, the format of dates; section 10.4, the range of `format_instant_millis`
-/

namespace KeyedStore

/-- A point in time. -/
structure Instant where
  /-- Whole seconds since the beginning of 1970. -/
  seconds : Int
  /-- The nanoseconds after them. -/
  nanos : Nat
  /-- The seconds lie in the range of instants. -/
  inRange : -8334601228800 ≤ seconds ∧ seconds ≤ 8210266876799
  /-- More than a second of nanoseconds occurs only in a leap second. -/
  nanosFit : nanos < 1000000000 ∨ nanos < 2000000000 ∧ seconds % 60 = 59
deriving DecidableEq

namespace Instant

/-- The instant of seconds and nanoseconds, if there is one. -/
def ofParts? (seconds : Int) (nanos : Nat) : Option Instant :=
  if inRange : -8334601228800 ≤ seconds ∧ seconds ≤ 8210266876799 then
    if nanosFit : nanos < 1000000000 ∨ nanos < 2000000000 ∧ seconds % 60 = 59 then
      some ⟨seconds, nanos, inRange, nanosFit⟩
    else none
  else none

/-- The instant of a number of milliseconds since the beginning of 1970, if there is one. -/
def ofMillis? (millis : Int) : Option Instant :=
  ofParts? (millis / 1000) ((millis % 1000).toNat * 1000000)

/-- The day of an instant, counted from the first of January 1970. -/
def days (instant : Instant) : Int :=
  instant.seconds / 86400

/-- The seconds since midnight. -/
def secondOfDay (instant : Instant) : Nat :=
  (instant.seconds % 86400).toNat

/-- Whether the instant lies in a leap second. -/
def isLeap (instant : Instant) : Bool :=
  1000000000 ≤ instant.nanos

/-- The nanoseconds within the second that is shown. -/
def shownNanos (instant : Instant) : Nat :=
  if instant.isLeap then instant.nanos - 1000000000 else instant.nanos

end Instant

end KeyedStore
