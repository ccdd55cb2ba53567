import KeyedStore.Calendar.Instant
import KeyedStore.Text.Basic
import KeyedStore.Text.Digits

/-!
# Reading instants

Two grammars. The lenient one reads what people write: blanks before numbers and separators, short
numbers, signed years, offsets with or without a colon. The strict one reads fixed widths only and
is used where a date stands in a document as a marked string.

A time with an offset is the same instant as the time less the offset at Greenwich.

## References

- SPEC_FULL.md, section 6, the format of dates; section 4.2, step 4 of loading, where entities are
  read from them
-/

namespace KeyedStore

open Text

namespace Calendar

/-- A date and a time of day as they are written, with the offset in seconds. -/
structure Written where
  /-- The year. -/
  year : Int
  /-- The month. -/
  month : Nat
  /-- The day of the month. -/
  day : Nat
  /-- The hour. -/
  hour : Nat
  /-- The minute. -/
  minute : Nat
  /-- The second; 60 is a leap second. -/
  second : Nat
  /-- The nanoseconds after the second. -/
  nanos : Nat
  /-- How many seconds the clock is ahead of Greenwich. -/
  offset : Int

namespace Written

/-- The date that is written. -/
def date (w : Written) : Date :=
  ⟨w.year, w.month, w.day⟩

/-- Whether the date and the time of day exist. -/
def isValid (w : Written) : Bool :=
  w.date.isValid ∧ w.hour ≤ 23 ∧ w.minute ≤ 59 ∧ w.second ≤ 60

/-- Whether the second is a leap second. -/
def isLeap (w : Written) : Bool :=
  w.second = 60

/-- The seconds since the beginning of 1970 at Greenwich; a leap second counts as the one before
it. -/
def seconds (w : Written) : Int :=
  w.date.toDays * 86400 + w.hour * 3600 + w.minute * 60 +
    (if w.isLeap then 59 else w.second : Nat) - w.offset

end Written

/-- Read between one digit and `most` digits. -/
def readNumber (most : Nat) (chars : List Char) : Option (Nat × List Char) :=
  match (chars.take most).takeWhile isDigit with
  | [] => none
  | run => some (digitsValue run, chars.drop run.length)

/-- Read a number of any length. -/
def readLong (chars : List Char) : Option (Nat × List Char) :=
  readNumber chars.length chars

/-- Read one given character. -/
def readMark (mark : Char) : List Char → Option (List Char)
  | c :: rest => if c = mark then some rest else none
  | [] => none

/-- Read a year: a sign and any number of digits, or at most four digits. -/
def readYear (chars : List Char) : Option (Int × List Char) :=
  match trimStart chars with
  | '-' :: rest => (readLong rest).map fun (n, rest) => (-(n : Int), rest)
  | '+' :: rest => (readLong rest).map fun (n, rest) => (n, rest)
  | rest => (readNumber 4 rest).map fun (n, rest) => (n, rest)

/-- Read a number of at most two digits, with blanks before it. -/
def readField (chars : List Char) : Option (Nat × List Char) :=
  readNumber 2 (trimStart chars)

/-- Read a separator and the number after it, with blanks before both. -/
def readNextField (mark : Char) (chars : List Char) : Option (Nat × List Char) := do
  readField (← readMark mark (trimStart chars))

/-- The nanoseconds that the digits after a point stand for; digits beyond the ninth count for
nothing. -/
def nanosOfFraction (run : List Char) : Nat :=
  digitsValue ((run ++ List.replicate 9 '0').take 9)

/-- Read a point and the digits after it, if there is one. -/
def readNanos : List Char → Option (Nat × List Char)
  | '.' :: rest =>
    match rest.takeWhile isDigit with
    | [] => none
    | run => some (nanosOfFraction run, rest.dropWhile isDigit)
  | rest => some (0, rest)

/-- Read exactly two digits. -/
def readPair : List Char → Option (Nat × List Char)
  | a :: b :: rest =>
    if isDigit a ∧ isDigit b then some (digitsValue [a, b], rest) else none
  | _ => none

/-- Read hours and minutes after the sign of an offset, with colons and blanks between them. -/
def readOffsetSize (chars : List Char) : Option (Nat × List Char) := do
  let (hours, rest) ← readPair chars
  let (minutes, rest) ← readPair (rest.dropWhile fun c => c = ':' ∨ isBlank c)
  if 59 < minutes ∨ 24 ≤ hours then none else some (hours * 3600 + minutes * 60, rest)

/-- Read an offset: a name or a letter for Greenwich, or a sign, hours and minutes. -/
def readOffset (chars : List Char) : Option (Int × List Char) :=
  if (chars.take 3).map Char.toUpper = ['U', 'T', 'C'] then some (0, chars.drop 3)
  else
    match chars with
    | c :: rest =>
      if c = 'Z' ∨ c = 'z' then some (0, rest)
      else if c = '+' then (readOffsetSize rest).map fun (n, rest) => (n, rest)
      else if c = '-' ∨ c = '\u2212' then
        (readOffsetSize rest).map fun (n, rest) => (-(n : Int), rest)
      else none
    | [] => none

/-- Read a time of day and an offset after the date. -/
def readTime (year : Int) (month day : Nat) (chars : List Char) : Option Written := do
  let (hour, rest) ← readField chars
  let (minute, rest) ← readNextField ':' rest
  let (second, rest) ← readNextField ':' rest
  let (nanos, rest) ← readNanos rest
  let (offset, rest) ← readOffset (trimStart rest)
  if trimStart rest = [] then some ⟨year, month, day, hour, minute, second, nanos, offset⟩
  else none

/-- Read a date, a separator and a time by the lenient grammar. -/
def readLenient (chars : List Char) : Option Written := do
  let (year, rest) ← readYear chars
  let (month, rest) ← readNextField '-' rest
  let (day, rest) ← readNextField '-' rest
  match rest with
  | c :: rest => if c = 'T' ∨ c = 't' ∨ c = ' ' then readTime year month day rest else none
  | [] => none

/-- Read exactly four digits. -/
def readQuad (chars : List Char) : Option (Nat × List Char) := do
  let (high, rest) ← readPair chars
  let (low, rest) ← readPair rest
  return (high * 100 + low, rest)

/-- Read a separator and exactly two digits. -/
def readNextPair (mark : Char) (chars : List Char) : Option (Nat × List Char) := do
  readPair (← readMark mark chars)

/-- Read an offset of the strict grammar, to the end of the text. -/
def readStrictOffset : List Char → Option Int
  | [c] => if c = 'Z' ∨ c = 'z' then some 0 else none
  | sign :: rest => do
    let (hours, rest) ← readPair rest
    let (minutes, rest) ← readNextPair ':' rest
    if 23 < hours ∨ 59 < minutes ∨ rest ≠ [] then none
    let size : Int := (hours * 3600 + minutes * 60 : Nat)
    if sign = '+' then some size else if sign = '-' then some (-size) else none
  | [] => none

/-- Read a date, any one separator and a time by the strict grammar. -/
def readStrict (chars : List Char) : Option Written := do
  let (year, rest) ← readQuad chars
  let (month, rest) ← readNextPair '-' rest
  let (day, rest) ← readNextPair '-' rest
  let rest ← match rest with
    -- One character of ASCII stands between the date and the time, whichever it is.
    | c :: rest => if c.toNat < 128 then some rest else none
    | [] => none
  let (hour, rest) ← readPair rest
  let (minute, rest) ← readNextPair ':' rest
  let (second, rest) ← readNextPair ':' rest
  let (nanos, rest) ← readNanos rest
  let offset ← readStrictOffset rest
  return ⟨year, month, day, hour, minute, second, nanos, offset⟩

/-- Whether a leap second stands at the end of a month at Greenwich. -/
def endsMonth (w : Written) : Bool :=
  let date := Date.ofDays (w.seconds / 86400)
  w.seconds % 86400 = 86399 ∧ date.day = Date.monthLength date.year date.month

end Calendar

open Calendar

/-- Read an instant by the lenient grammar. Both the date as it is written and the instant must lie
in the range of years. -/
def Instant.ofText? (text : String) : Option Instant := do
  let w ← readLenient text.toList
  if w.isValid ∧ -262143 ≤ w.year ∧ w.year ≤ 262142 then
    Instant.ofParts? w.seconds (w.nanos + if w.isLeap then 1000000000 else 0)
  else none

/-- Read the milliseconds since the beginning of 1970 by the strict grammar. A fraction of a
millisecond is cut off towards zero, and a leap second, which must end a month, counts as the last
nanosecond of the second before it. -/
def millisOfText? (text : String) : Option Int := do
  let w ← readStrict text.toList
  if ¬ w.isValid then none
  else if w.isLeap ∧ ¬ endsMonth w then none
  else
    -- The sum is cut off towards zero, so before 1970 a fraction moves the instant forward.
    let nanos := if w.isLeap then 999999999 else w.nanos
    return (w.seconds * 1000000000 + nanos).tdiv 1000000

end KeyedStore
