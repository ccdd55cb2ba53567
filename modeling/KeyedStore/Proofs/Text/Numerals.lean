import Mathlib.Tactic.Ring
import KeyedStore.Text.Digits

/-!
# Reading written numbers

`digits` and `padded` write a number, `digitsValue` reads one. This file shows that reading takes
back what writing produced, and how long the written form is:

- `digitsValue_digits`, `digitsValue_padded`: the value of the written digits is the number;
- `length_padded`: a number that fits a width is written in exactly that width;
- `takeWhile_isDigit_append`: a run of digits ends where the first other character stands.

## References

- SPEC_FULL.md, section 6, the format of dates
-/

namespace KeyedStore.Text

/-- The decimal digits stand in a row in ASCII. -/
theorem toNat_digitChar {d : Nat} (h : d < 10) : (digitChar d).toNat = 48 + d := by
  unfold digitChar
  have hvalid : (48 + d).isValidChar := Or.inl (by omega)
  rw [Char.ofNat, dif_pos hvalid]
  rfl

theorem isDigit_digitChar {d : Nat} (h : d < 10) : isDigit (digitChar d) = true := by
  simp only [isDigit, toNat_digitChar h, Bool.and_eq_true, decide_eq_true_eq]
  omega

theorem digitValue_digitChar {d : Nat} (h : d < 10) : digitValue (digitChar d) = d := by
  rw [digitValue, toNat_digitChar h]
  omega

/-! ## Values -/

/-- Digits that are read on from a number move it up by as many places. -/
private theorem foldl_digitValue (chars : List Char) (start : Nat) :
    chars.foldl (fun value c => 10 * value + digitValue c) start =
      start * 10 ^ chars.length + digitsValue chars := by
  induction chars generalizing start with
  | nil => simp [digitsValue]
  | cons c chars ih =>
    have hvalue : digitsValue (c :: chars) =
        digitValue c * 10 ^ chars.length + digitsValue chars := by
      rw [digitsValue, List.foldl_cons, ih, Nat.mul_zero, Nat.zero_add]
    rw [List.foldl_cons, ih, hvalue, List.length_cons, pow_succ]
    ring

/-- The value of joined digits is that of the first ones, moved up, and that of the others. -/
theorem digitsValue_append (first second : List Char) :
    digitsValue (first ++ second) =
      digitsValue first * 10 ^ second.length + digitsValue second := by
  rw [digitsValue, List.foldl_append, foldl_digitValue, ← digitsValue]

theorem digitsValue_singleton (c : Char) : digitsValue [c] = digitValue c := by
  simp [digitsValue]

/-- The value of the written digits of a number is the number. -/
theorem digitsValue_digits (n : Nat) : digitsValue (digits n) = n := by
  induction n using digits.induct with
  | case1 n hn =>
    rw [digits, if_pos hn, digitsValue_singleton, digitValue_digitChar hn]
  | case2 n hn ih =>
    have hlast : n % 10 < 10 := Nat.mod_lt n (by decide)
    rw [digits, if_neg hn, digitsValue_append, ih, digitsValue_singleton,
      digitValue_digitChar hlast, List.length_singleton]
    omega

/-- Zeros have no value. -/
theorem digitsValue_replicate_zero (count : Nat) :
    digitsValue (List.replicate count '0') = 0 := by
  induction count with
  | zero => rfl
  | succ count ih =>
    rw [List.replicate_succ', digitsValue_append, ih, digitsValue_singleton]
    rfl

/-- Zeros in front of a number do not change its value. -/
theorem digitsValue_padded (width n : Nat) : digitsValue (padded width n) = n := by
  rw [padded, digitsValue_append, digitsValue_replicate_zero, digitsValue_digits]
  omega

/-! ## The characters that are written -/

theorem isDigit_of_mem_digits {c : Char} (n : Nat) (hc : c ∈ digits n) : isDigit c = true := by
  induction n using digits.induct with
  | case1 n hn =>
    rw [digits, if_pos hn, List.mem_singleton] at hc
    rw [hc]
    exact isDigit_digitChar hn
  | case2 n hn ih =>
    rw [digits, if_neg hn, List.mem_append, List.mem_singleton] at hc
    rcases hc with hc | hc
    · exact ih hc
    · rw [hc]
      exact isDigit_digitChar (Nat.mod_lt n (by decide))

theorem isDigit_of_mem_padded {c : Char} (width n : Nat) (hc : c ∈ padded width n) :
    isDigit c = true := by
  rw [padded, List.mem_append] at hc
  rcases hc with hc | hc
  · rw [List.eq_of_mem_replicate hc]
    decide
  · exact isDigit_of_mem_digits n hc

/-- No number is written as an empty text. -/
theorem digits_ne_nil (n : Nat) : digits n ≠ [] := by
  rw [digits]
  split <;> simp

theorem padded_ne_nil (width n : Nat) : padded width n ≠ [] := by
  simp [padded, digits_ne_nil]

/-- Only zero is written with a zero in front. -/
theorem eq_zero_of_head?_digits {n : Nat} (h : (digits n).head? = some '0') : n = 0 := by
  induction n using digits.induct with
  | case1 n hn =>
    rw [digits, if_pos hn, List.head?_cons, Option.some.injEq] at h
    rw [← digitValue_digitChar hn, h]
    decide
  | case2 n hn ih =>
    -- A number of several digits begins like its quotient.
    rw [digits, if_neg hn, List.head?_append] at h
    cases hfront : (digits (n / 10)).head? with
    | none => exact absurd (List.head?_eq_none_iff.mp hfront) (digits_ne_nil _)
    | some c =>
      rw [hfront, Option.some_or] at h
      have := ih (hfront.trans h)
      omega

/-! ## Lengths -/

/-- A number below a power of ten has at most as many digits as the power. -/
theorem length_digits_le {n width : Nat} (hwidth : 0 < width) (h : n < 10 ^ width) :
    (digits n).length ≤ width := by
  induction n using digits.induct generalizing width with
  | case1 n hn =>
    rw [digits, if_pos hn]
    exact hwidth
  | case2 n hn ih =>
    obtain ⟨shorter, rfl⟩ : ∃ shorter, width = shorter + 1 := ⟨width - 1, by omega⟩
    -- A number of two digits does not fit a width of one.
    have hshorter : 0 < shorter := by
      rcases Nat.eq_zero_or_pos shorter with hzero | hpos
      · rw [hzero] at h
        omega
      · exact hpos
    have hquotient : n / 10 < 10 ^ shorter := by
      rw [pow_succ] at h
      omega
    have := ih hshorter hquotient
    rw [digits, if_neg hn, List.length_append, List.length_singleton]
    omega

/-- A number that fits a width is written in exactly that width. -/
theorem length_padded {width n : Nat} (hwidth : 0 < width) (h : n < 10 ^ width) :
    (padded width n).length = width := by
  have := length_digits_le hwidth h
  rw [padded, List.length_append, List.length_replicate]
  omega

/-! ## Runs of digits -/

/-- The text does not go on with a digit. -/
def NoDigit (rest : List Char) : Prop :=
  ∀ c ∈ rest.head?, isDigit c = false

/-- A character that is no digit ends a run of digits. -/
theorem noDigit_cons {c : Char} (h : isDigit c = false) (rest : List Char) :
    NoDigit (c :: rest) := by
  simpa [NoDigit] using h

theorem noDigit_nil : NoDigit [] := by
  simp [NoDigit]

/-- A run of digits is what can be taken of it before another character. -/
theorem takeWhile_isDigit_append {run rest : List Char} (hrun : ∀ c ∈ run, isDigit c = true)
    (hrest : NoDigit rest) : (run ++ rest).takeWhile isDigit = run := by
  rw [List.takeWhile_append_of_pos hrun]
  cases rest with
  | nil => simp
  | cons c rest =>
    have hc : isDigit c = false := hrest c rfl
    simp [hc]

/-- Behind a run of digits stands what followed it. -/
theorem dropWhile_isDigit_append {run rest : List Char} (hrun : ∀ c ∈ run, isDigit c = true)
    (hrest : NoDigit rest) : (run ++ rest).dropWhile isDigit = rest := by
  rw [List.dropWhile_append_of_pos hrun]
  cases rest with
  | nil => simp
  | cons c rest =>
    have hc : isDigit c = false := hrest c rfl
    simp [hc]

end KeyedStore.Text
