import KeyedStore.Calendar.Reader
import KeyedStore.Calendar.Timestamp
import KeyedStore.Proofs.Calendar.Days
import KeyedStore.Proofs.Text.Numerals

/-!
# Reading written instants

Instants are written with every field at its full width, and the lenient grammar reads fields of
any width. This file follows the reader through a written instant, field by field:

- `readYear_yearText`, `readNextField_padded`, `readNanos_padded`: one field is read back;
- `readLenient_clockText`: a written date and time are read back, with what was written after them;
- `ofText?_exactText`, `ofText?_millisText`: the exact text of an instant is read as the instant,
  and so is its text to the millisecond.

## References

- SPEC_FULL.md, section 8, Date fidelity; section 6, the format of dates
-/

namespace KeyedStore

open Text

namespace Calendar

/-! ## Fields -/

theorem trimStart_cons {c : Char} (h : isBlank c = false) (rest : List Char) :
    trimStart (c :: rest) = c :: rest := by
  rw [trimStart, List.dropWhile_cons_of_neg]
  simp [h]

theorem isBlank_of_isDigit {c : Char} (h : isDigit c = true) : isBlank c = false := by
  simp only [isDigit, Bool.and_eq_true, decide_eq_true_eq] at h
  simp only [isBlank, Bool.or_eq_false_iff, Bool.and_eq_false_iff, decide_eq_false_iff_not,
    beq_eq_false_iff_ne]
  omega

theorem trimStart_padded (width n : Nat) (rest : List Char) :
    trimStart (padded width n ++ rest) = padded width n ++ rest := by
  cases hpadded : padded width n with
  | nil => exact absurd hpadded (padded_ne_nil width n)
  | cons c front =>
    have hc : isDigit c = true := isDigit_of_mem_padded width n (by simp [hpadded])
    exact trimStart_cons (isBlank_of_isDigit hc) _

theorem takeWhile_isDigit_padded (width n : Nat) :
    (padded width n).takeWhile isDigit = padded width n := by
  have h := takeWhile_isDigit_append (fun c => isDigit_of_mem_padded (c := c) width n) noDigit_nil
  rwa [List.append_nil] at h

/-- A number written in the width that is read is read back, whatever follows it. -/
theorem readNumber_padded {width n : Nat} (hwidth : 0 < width) (h : n < 10 ^ width)
    (rest : List Char) : readNumber width (padded width n ++ rest) = some (n, rest) := by
  have hlength := length_padded hwidth h
  rw [readNumber, List.take_left' hlength, takeWhile_isDigit_padded]
  split
  · rename_i hnil
    exact absurd hnil (padded_ne_nil width n)
  · rw [digitsValue_padded, List.drop_left]

/-- A number of any width is read back if no other digit follows it. -/
theorem readLong_padded (width n : Nat) {rest : List Char} (h : NoDigit rest) :
    readLong (padded width n ++ rest) = some (n, rest) := by
  rw [readLong, readNumber, List.take_length,
    takeWhile_isDigit_append (fun c => isDigit_of_mem_padded width n) h]
  split
  · rename_i hnil
    exact absurd hnil (padded_ne_nil width n)
  · rw [digitsValue_padded, List.drop_left]

/-- A field of two digits is read back. -/
theorem readField_padded {n : Nat} (h : n < 100) (rest : List Char) :
    readField (padded 2 n ++ rest) = some (n, rest) := by
  rw [readField, trimStart_padded, readNumber_padded (by decide) h]

/-- A field behind its mark is read back. -/
theorem readNextField_padded {mark : Char} (hmark : isBlank mark = false) {n : Nat} (h : n < 100)
    (rest : List Char) : readNextField mark (mark :: (padded 2 n ++ rest)) = some (n, rest) := by
  rw [readNextField, trimStart_cons hmark, readMark, if_pos rfl]
  exact readField_padded h rest

/-- A written year is read back. Four digits are read at most, unless a sign stands before them. -/
theorem readYear_yearText (year : Int) (rest : List Char) :
    readYear (yearText year ++ '-' :: rest) = some (year, '-' :: rest) := by
  have hmark : NoDigit ('-' :: rest) := noDigit_cons (by decide) rest
  unfold yearText
  split
  · -- A year without a sign has exactly the four digits that are read.
    rename_i hyear
    obtain ⟨n, rfl⟩ : ∃ n : Nat, year = n := ⟨year.toNat, by omega⟩
    rw [Int.toNat_natCast, readYear, trimStart_padded]
    cases hpadded : padded 4 n with
    | nil => exact absurd hpadded (padded_ne_nil 4 n)
    | cons c front =>
      have hc : isDigit c = true := isDigit_of_mem_padded 4 n (by simp [hpadded])
      have hread := readNumber_padded (n := n) (by decide : 0 < 4) (by omega) ('-' :: rest)
      rw [hpadded] at hread
      rw [List.cons_append] at hread ⊢
      split
      · rename_i heq
        rw [(List.cons.inj heq).1] at hc
        exact absurd hc (by decide)
      · rename_i heq
        rw [(List.cons.inj heq).1] at hc
        exact absurd hc (by decide)
      · rw [hread, Option.map_some]
  · -- After a sign all digits are read, up to the dash.
    rename_i hyear
    split
    · rename_i hnegative
      rw [List.cons_append, readYear, trimStart_cons (by decide)]
      simp only [readLong_padded 4 year.natAbs hmark, Option.map_some]
      congr 2
      omega
    · rename_i hnegative
      rw [List.cons_append, readYear, trimStart_cons (by decide)]
      simp only [readLong_padded 4 year.natAbs hmark, Option.map_some]
      congr 2
      omega

/-! ## Fractions -/

/-- The digits after a point count for thousand millionths, so those of a shorter fraction count
for a power of ten each. -/
theorem nanosOfFraction_padded {width n : Nat} (hwidth : 0 < width) (hnine : width ≤ 9)
    (h : n < 10 ^ width) : nanosOfFraction (padded width n) = n * 10 ^ (9 - width) := by
  have hlength := length_padded hwidth h
  rw [nanosOfFraction, List.take_append, hlength, List.take_of_length_le (by omega),
    List.take_replicate, Nat.min_eq_left (by omega), digitsValue_append, digitsValue_padded,
    digitsValue_replicate_zero, List.length_replicate, Nat.add_zero]

/-- Digits behind the point count as nanoseconds, whatever their number. -/
theorem readNanos_padded {width n : Nat} (hwidth : 0 < width) (hnine : width ≤ 9)
    (h : n < 10 ^ width) {rest : List Char} (hrest : NoDigit rest) :
    readNanos ('.' :: (padded width n ++ rest)) = some (n * 10 ^ (9 - width), rest) := by
  have hdigits : ∀ c ∈ padded width n, isDigit c = true := fun c => isDigit_of_mem_padded width n
  rw [readNanos, takeWhile_isDigit_append hdigits hrest, dropWhile_isDigit_append hdigits hrest]
  split
  · rename_i hnil
    exact absurd hnil (padded_ne_nil width n)
  · rw [nanosOfFraction_padded hwidth hnine h]

/-- The fewest digits that are exact are read back as the nanoseconds that they were written for. -/
theorem readNanos_fractionText {nanos : Nat} (h : nanos < 1000000000) :
    readNanos (Instant.fractionText nanos ++ ['Z']) = some (nanos, ['Z']) := by
  have hend : NoDigit ['Z'] := noDigit_cons (by decide) []
  -- There is no fraction, or three, six or nine digits of one.
  unfold Instant.fractionText
  split
  · rename_i hzero
    rw [hzero]
    rfl
  split
  · rw [List.cons_append, readNanos_padded (by decide) (by decide) (by omega) hend]
    congr 2
    omega
  split
  · rw [List.cons_append, readNanos_padded (by decide) (by decide) (by omega) hend]
    congr 2
    omega
  · rw [List.cons_append, readNanos_padded (by decide) (by decide) (by omega) hend]
    congr 2
    omega

/-! ## Dates and times -/

/-- The letter Z is an offset of nothing. -/
theorem readOffset_zulu : readOffset ['Z'] = some (0, []) := by
  decide

/-- What is read from the written date and time of an instant, with the given nanoseconds. -/
def writtenAs (instant : Instant) (nanos : Nat) : Written :=
  let date := Date.ofDays instant.days
  let second := instant.secondOfDay
  ⟨date.year, date.month, date.day, second / 3600, second / 60 % 60,
    second % 60 + (if instant.isLeap then 1 else 0), nanos, 0⟩

/-- The second of a day is within the day. -/
theorem secondOfDay_lt (instant : Instant) : instant.secondOfDay < 86400 := by
  unfold Instant.secondOfDay
  omega

/-- The date and the time of an instant are read back, with the nanoseconds written after them. -/
theorem readLenient_clockText (instant : Instant) {tail : List Char} {nanos : Nat}
    (htail : readNanos tail = some (nanos, ['Z'])) :
    readLenient (instant.clockText ++ tail) = some (writtenAs instant nanos) := by
  have hdate := Date.isValid_ofDays instant.days
  have hlength : Date.monthLength (Date.ofDays instant.days).year
      (Date.ofDays instant.days).month ≤ 31 := by
    unfold Date.monthLength
    split_ifs <;> decide
  simp only [Date.isValid, decide_eq_true_eq] at hdate
  have hsecond := secondOfDay_lt instant
  -- Every field fits into the two digits that it is written with.
  have hmonth : (Date.ofDays instant.days).month < 100 := by omega
  have hday : (Date.ofDays instant.days).day < 100 := by omega
  have hshown : instant.secondOfDay % 60 + (if instant.isLeap then 1 else 0) < 100 := by
    split <;> omega
  have hhour : instant.secondOfDay / 3600 < 100 := by omega
  have hminute : instant.secondOfDay / 60 % 60 < 100 := by omega
  have hdash : isBlank '-' = false := by decide
  have hcolon : isBlank ':' = false := by decide
  unfold Instant.clockText readLenient
  simp only [List.append_assoc, List.cons_append, List.nil_append, readYear_yearText,
    Option.bind_eq_bind, Option.bind_some, readNextField_padded hdash hmonth,
    readNextField_padded hdash hday, readTime, true_or, ↓reduceIte, readField_padded hhour,
    readNextField_padded hcolon hminute, readNextField_padded hcolon hshown, htail,
    trimStart_cons (c := 'Z') (by decide), readOffset_zulu]
  rfl

end Calendar

namespace Instant

open Calendar

/-- A leap second is the last second of its minute. -/
theorem secondOfDay_of_isLeap {instant : Instant} (h : instant.isLeap = true) :
    instant.secondOfDay % 60 = 59 := by
  have hfit := instant.nanosFit
  simp only [isLeap, decide_eq_true_eq] at h
  unfold secondOfDay
  omega

/-- A written clock shows a leap second exactly if the instant is one. -/
theorem isLeap_writtenAs (instant : Instant) (nanos : Nat) :
    (writtenAs instant nanos).isLeap = instant.isLeap := by
  have hsecond := secondOfDay_lt instant
  cases hleap : instant.isLeap with
  | false =>
    simp only [writtenAs, Written.isLeap, hleap]
    simp
    omega
  | true =>
    have := secondOfDay_of_isLeap hleap
    simp [writtenAs, Written.isLeap, hleap, this]

/-- A written clock shows a time that there is. -/
theorem isValid_writtenAs (instant : Instant) (nanos : Nat) :
    (writtenAs instant nanos).isValid = true := by
  have hsecond := secondOfDay_lt instant
  have hshown : instant.secondOfDay % 60 + (if instant.isLeap then 1 else 0) ≤ 60 := by
    split <;> omega
  have hhour : instant.secondOfDay / 3600 ≤ 23 := by omega
  have hminute : instant.secondOfDay / 60 % 60 ≤ 59 := by omega
  rw [Written.isValid, decide_eq_true_eq]
  exact ⟨Date.isValid_ofDays instant.days, hhour, hminute, hshown⟩

/-- A written clock shows the seconds of the instant. -/
theorem seconds_writtenAs (instant : Instant) (nanos : Nat) :
    (writtenAs instant nanos).seconds = instant.seconds := by
  unfold Written.seconds
  rw [isLeap_writtenAs]
  have hdays : (writtenAs instant nanos).date.toDays = instant.seconds / 86400 :=
    Date.toDays_ofDays _
  have hsecond : (instant.secondOfDay : Int) = instant.seconds % 86400 := by
    unfold secondOfDay
    omega
  rw [hdays]
  cases hleap : instant.isLeap with
  | false =>
    simp only [writtenAs, hleap]
    push_cast
    simp
    omega
  | true =>
    have := secondOfDay_of_isLeap hleap
    -- It is written as the sixtieth second of its minute and counted as the one before.
    simp only [writtenAs]
    push_cast
    simp
    omega

/-- The nanoseconds that are shown, with those of a leap second, are the nanoseconds. -/
theorem shownNanos_add (instant : Instant) :
    instant.shownNanos + (if instant.isLeap then 1000000000 else 0) = instant.nanos := by
  unfold shownNanos
  split
  · rename_i h
    simp only [isLeap, decide_eq_true_eq] at h
    omega
  · rfl

/-- The nanoseconds that are shown are less than a second, in a leap second too. -/
theorem shownNanos_lt (instant : Instant) : instant.shownNanos < 1000000000 := by
  have hfit := instant.nanosFit
  unfold shownNanos
  split
  · omega
  · rename_i h
    simpa [isLeap] using h

/-- An instant is made of its own seconds and nanoseconds. -/
theorem ofParts?_self (instant : Instant) :
    ofParts? instant.seconds instant.nanos = some instant := by
  rw [ofParts?, dif_pos instant.inRange, dif_pos instant.nanosFit]

/-- A text that shows an instant with the nanoseconds `nanos` is read as that instant. -/
theorem ofText?_clockText (instant : Instant) {tail : List Char}
    (htail : readNanos tail = some (instant.shownNanos, ['Z'])) :
    ofText? (String.ofList (instant.clockText ++ tail)) = some instant := by
  have hyear : -262143 ≤ (writtenAs instant instant.shownNanos).year ∧
      (writtenAs instant instant.shownNanos).year ≤ 262142 := by
    have hrange := instant.inRange
    exact Date.year_ofDays_mem (by unfold days; omega) (by unfold days; omega)
  rw [ofText?, String.toList_ofList, readLenient_clockText instant htail, Option.bind_eq_bind,
    Option.bind_some, if_pos ⟨isValid_writtenAs instant _, hyear⟩, seconds_writtenAs,
    isLeap_writtenAs]
  exact (congrArg _ (shownNanos_add instant)).trans (ofParts?_self instant)

/-- The exact text of an instant is read as the instant, to the nanosecond. -/
theorem ofText?_exactText (instant : Instant) : ofText? instant.exactText = some instant := by
  rw [exactText, List.append_assoc]
  exact ofText?_clockText instant (readNanos_fractionText (shownNanos_lt instant))

/-- The text of an instant to the millisecond is read as the instant if there is nothing below the
milliseconds. -/
theorem ofText?_millisText {instant : Instant} (h : instant.shownNanos % 1000000 = 0) :
    ofText? instant.millisText = some instant := by
  have hlt := instant.shownNanos_lt
  have hend : NoDigit ['Z'] := noDigit_cons (by decide) []
  have hmillis : instant.shownNanos / 1000000 * 10 ^ (9 - 3) = instant.shownNanos :=
    Nat.div_mul_cancel (Nat.dvd_of_mod_eq_zero h)
  rw [millisText, List.append_assoc]
  refine ofText?_clockText instant ?_
  rw [List.cons_append, readNanos_padded (by decide) (by decide) (by omega) hend, hmillis]

end Instant

end KeyedStore
