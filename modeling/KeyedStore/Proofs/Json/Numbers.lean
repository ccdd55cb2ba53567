import KeyedStore.Json.Reader
import KeyedStore.Json.Text
import KeyedStore.Proofs.Number.Shortest
import KeyedStore.Proofs.Text.Numerals

/-!
# Reading written numbers

A written whole number in the range of 64 bits is read back. A written double is read as a double
again, never as a whole number and never refused; it need not be the same double, because the reader
rounds once for every operation.

- `readNumber_signed`: a written whole number is read back;
- `readNumber_numeral`: digits with a point or an exponent are read as a double;
- `Binary64.reread`, `readNumber_text`: the double that the text of a double is read as.

## References

- SPEC_FULL.md, section 4.2, step 3 and step 4 of loading: the intermediate text
-/

namespace KeyedStore

namespace Json

open Text

/-! ## Parts of numbers -/

/-- The text does not go on with anything that a number could go on with. -/
def EndsNumber (rest : List Char) : Prop :=
  ∀ c ∈ rest.head?, isDigit c = false ∧ c ≠ '.' ∧ c ≠ 'e' ∧ c ≠ 'E'

/-- What ends a number begins with no digit. -/
theorem EndsNumber.noDigit {rest : List Char} (h : EndsNumber rest) : NoDigit rest :=
  fun c hc => (h c hc).1

theorem endsNumber_nil : EndsNumber [] := by
  simp [EndsNumber]

theorem endsNumber_comma (rest : List Char) : EndsNumber (',' :: rest) := by
  simp [EndsNumber, isDigit]

theorem endsNumber_bracket (rest : List Char) : EndsNumber (']' :: rest) := by
  simp [EndsNumber, isDigit]

theorem endsNumber_brace (rest : List Char) : EndsNumber ('\x7d' :: rest) := by
  simp [EndsNumber, isDigit]

/-- A run of digits is read up to where it ends. -/
theorem readDigits_append {run rest : List Char} (hrun : ∀ c ∈ run, isDigit c = true)
    (hne : run ≠ []) (hrest : NoDigit rest) : readDigits (run ++ rest) = some (run, rest) := by
  rw [readDigits, takeWhile_isDigit_append hrun hrest, dropWhile_isDigit_append hrun hrest]
  split
  · exact absurd rfl hne
  · rfl

theorem readFraction_of_endsNumber {rest : List Char} (h : EndsNumber rest) :
    readFraction rest = some ([], rest) := by
  rw [readFraction.eq_def]
  split
  · exact absurd rfl (h '.' rfl).2.1
  · rfl

theorem readExponent_of_endsNumber {rest : List Char} (h : EndsNumber rest) :
    readExponent rest = some (none, rest) := by
  cases rest with
  | nil => rfl
  | cons c rest =>
    obtain ⟨-, -, he, hE⟩ := h c rfl
    rw [readExponent.eq_def]
    simp [he, hE]

/-- The first character of a written number is a digit. -/
theorem exists_digits_eq_cons (n : Nat) :
    ∃ c rest, digits n = c :: rest ∧ isDigit c = true := by
  cases hdigits : digits n with
  | nil => exact absurd hdigits (digits_ne_nil n)
  | cons c rest => exact ⟨c, rest, rfl, isDigit_of_mem_digits n (by simp [hdigits])⟩

/-- No zero stands in front of other digits of a written number. -/
theorem not_leadingZero (n : Nat) : ¬ ((digits n).head? = some '0' ∧ digits n ≠ ['0']) := by
  rintro ⟨hhead, hne⟩
  rw [eq_zero_of_head?_digits hhead, digits, if_pos (by decide)] at hne
  exact hne rfl

/-- Read a number behind its sign. -/
def readMagnitude (negative : Bool) (chars : List Char) : Option (Json × List Char) := do
  let (run, rest) ← readDigits chars
  if run.head? = some '0' ∧ run ≠ ['0'] then none
  let (fraction, rest) ← readFraction rest
  let (power, rest) ← readExponent rest
  if fraction = [] ∧ power = none then return (wholeNumber negative (digitsValue run), rest)
  let exponent := power.getD 0 - fraction.length
  return (.float (Binary64.ofNumeral negative (digitsValue (run ++ fraction)) exponent), rest)

/-- A number is its sign and what stands behind it. -/
theorem readNumber_sign (negative : Bool) {c : Char} (hc : isDigit c = true) (rest : List Char) :
    readNumber ((if negative then ['-'] else []) ++ c :: rest) =
      readMagnitude negative (c :: rest) := by
  cases negative with
  | true => rfl
  | false =>
    have hsign : c ≠ '-' := by
      rintro rfl
      exact absurd hc (by decide)
    -- A digit comes first, so the reader takes no sign off.
    rw [readNumber.eq_def]
    split
    rename_i negative body hmatch
    split at hmatch
    · rename_i heq
      exact absurd (List.cons.inj heq).1 hsign
    · obtain ⟨rfl, rfl⟩ := Prod.mk.inj hmatch
      rfl

/-! ## Whole numbers -/

/-- Digits without point and exponent are a whole number. -/
theorem readNumber_digits (negative : Bool) (n : Nat) {rest : List Char} (h : EndsNumber rest) :
    readNumber ((if negative then ['-'] else []) ++ (digits n ++ rest)) =
      some (wholeNumber negative n, rest) := by
  have hread := readDigits_append (fun c => isDigit_of_mem_digits n) (digits_ne_nil n) h.noDigit
  have hvalue := digitsValue_digits n
  have hzero := not_leadingZero n
  obtain ⟨c, front, hdigits, hc⟩ := exists_digits_eq_cons n
  rw [hdigits] at hread hvalue hzero ⊢
  rw [List.cons_append] at hread ⊢
  rw [readNumber_sign negative hc]
  simp only [readMagnitude, hread, readFraction_of_endsNumber h, readExponent_of_endsNumber h,
    Option.bind_eq_bind, Option.bind_some, hzero, hvalue, ↓reduceIte, and_self, pure]

/-- A written whole number is read back. -/
theorem readNumber_signed {n : Int} (hlow : -2 ^ 63 ≤ n) (hhigh : n < 2 ^ 64) {rest : List Char}
    (h : EndsNumber rest) : readNumber (signed n ++ rest) = some (.whole n, rest) := by
  unfold signed
  split
  · rename_i hn
    have hwhole : wholeNumber true n.natAbs = .whole n := by
      rw [wholeNumber, if_pos rfl, if_pos (by omega)]
      congr 1
      omega
    have hread := readNumber_digits true n.natAbs h
    rw [hwhole] at hread
    exact hread
  · rename_i hn
    have hwhole : wholeNumber false n.natAbs = .whole n := by
      rw [wholeNumber, if_neg (by decide), if_pos (by omega)]
      congr 1
      omega
    have hread := readNumber_digits false n.natAbs h
    rw [hwhole] at hread
    exact hread

/-- The first character of a written whole number is a digit or a minus sign. -/
theorem exists_signed_eq_cons (n : Int) :
    ∃ c rest, signed n = c :: rest ∧ (isDigit c = true ∨ c = '-') := by
  unfold signed
  split
  · exact ⟨'-', _, rfl, Or.inr rfl⟩
  · obtain ⟨c, rest, hdigits, hc⟩ := exists_digits_eq_cons n.natAbs
    exact ⟨c, rest, hdigits, Or.inl hc⟩

/-! ## Doubles -/

/-- The parts of a numeral that is read as a double. -/
structure Numeral where
  /-- The digits before the point. -/
  run : List Char
  /-- The digits behind the point, if there is one. -/
  fraction : List Char
  /-- The exponent with its sign, if there is one. -/
  power : Option (Bool × Nat)
  /-- There are only digits before the point. -/
  isDigit_run : ∀ c ∈ run, isDigit c = true
  /-- There is a digit before the point. -/
  run_ne_nil : run ≠ []
  /-- No zero stands in front of other digits. -/
  not_leadingZero : ¬ (run.head? = some '0' ∧ run ≠ ['0'])
  /-- There are only digits behind the point. -/
  isDigit_fraction : ∀ c ∈ fraction, isDigit c = true
  /-- There is a point or an exponent. -/
  isFloat : ¬ (fraction = [] ∧ power = none)

/-- An exponent with its sign, if there is one. -/
def exponentText : Option (Bool × Nat) → List Char
  | none => []
  | some (negative, n) => 'e' :: (if negative then '-' else '+') :: digits n

/-- The power of ten of an exponent. -/
def exponentValue (power : Bool × Nat) : Int :=
  if power.1 then -(power.2 : Int) else power.2

namespace Numeral

/-- The point and the digits behind it, if there is one. -/
def fractionText (numeral : Numeral) : List Char :=
  if numeral.fraction = [] then [] else '.' :: numeral.fraction

/-- The text of a numeral. -/
def text (numeral : Numeral) : List Char :=
  numeral.run ++ (numeral.fractionText ++ exponentText numeral.power)

/-- The double that a numeral is read as. -/
def value (negative : Bool) (numeral : Numeral) : Binary64 :=
  Binary64.ofNumeral negative (digitsValue (numeral.run ++ numeral.fraction))
    ((numeral.power.map exponentValue).getD 0 - numeral.fraction.length)

end Numeral

/-- A written exponent is read back. -/
theorem readExponent_exponentText (power : Option (Bool × Nat)) {rest : List Char}
    (h : EndsNumber rest) :
    readExponent (exponentText power ++ rest) = some (power.map exponentValue, rest) := by
  cases power with
  | none => exact readExponent_of_endsNumber h
  | some power =>
    obtain ⟨negative, n⟩ := power
    have hread := readDigits_append (fun c => isDigit_of_mem_digits n) (digits_ne_nil n) h.noDigit
    cases negative <;>
      simp [exponentText, exponentValue, readExponent, hread, digitsValue_digits]

/-- Neither an exponent nor the end of a number looks like a part of the digits before it. -/
theorem noDigit_exponentText (power : Option (Bool × Nat)) {rest : List Char}
    (h : EndsNumber rest) :
    NoDigit (exponentText power ++ rest) ∧ ∀ tail, exponentText power ++ rest ≠ '.' :: tail := by
  cases power with
  | none =>
    refine ⟨h.noDigit, ?_⟩
    intro tail htail
    have hpoint : '.' ∈ rest.head? := by
      rw [show rest = '.' :: tail from htail]
      rfl
    exact (h '.' hpoint).2.1 rfl
  | some power => exact ⟨noDigit_cons (by decide) _, by simp [exponentText]⟩

/-- A written fraction is read back. -/
theorem readFraction_fractionText (numeral : Numeral) {tail : List Char} (htail : NoDigit tail)
    (hpoint : ∀ rest, tail ≠ '.' :: rest) :
    readFraction (numeral.fractionText ++ tail) = some (numeral.fraction, tail) := by
  rw [Numeral.fractionText]
  split_ifs with hempty
  · rw [hempty, List.nil_append, readFraction.eq_def]
    split
    · exact absurd rfl (hpoint _)
    · rfl
  · rw [List.cons_append, readFraction]
    exact readDigits_append numeral.isDigit_fraction hempty htail

/-- The text of a numeral is read as its double. -/
theorem readNumber_numeral (negative : Bool) (numeral : Numeral) {rest : List Char}
    (h : EndsNumber rest) :
    readNumber ((if negative then ['-'] else []) ++ (numeral.text ++ rest)) =
      some (.float (numeral.value negative), rest) := by
  obtain ⟨hdigit, hpoint⟩ := noDigit_exponentText numeral.power h
  have hfraction := readFraction_fractionText numeral hdigit hpoint
  have hpower : ¬ (numeral.fraction = [] ∧ numeral.power.map exponentValue = none) := by
    rw [Option.map_eq_none_iff]
    exact numeral.isFloat
  have hbehind : NoDigit (numeral.fractionText ++ (exponentText numeral.power ++ rest)) := by
    rw [Numeral.fractionText]
    split_ifs
    · exact hdigit
    · exact noDigit_cons (by decide) _
  have hread := readDigits_append numeral.isDigit_run numeral.run_ne_nil hbehind
  -- The reader finds the parts one after the other once the sign is taken off.
  obtain ⟨c, front, hrun⟩ := List.exists_cons_of_ne_nil numeral.run_ne_nil
  have hsign : readNumber ((if negative then ['-'] else []) ++ (numeral.text ++ rest)) =
      readMagnitude negative
        (numeral.run ++ (numeral.fractionText ++ (exponentText numeral.power ++ rest))) := by
    rw [Numeral.text, List.append_assoc, List.append_assoc, hrun]
    exact readNumber_sign negative (numeral.isDigit_run c (by simp [hrun])) _
  simp only [hsign, readMagnitude, hread, hfraction, readExponent_exponentText numeral.power h,
    Option.bind_eq_bind, Option.bind_some, numeral.not_leadingZero, hpower, ↓reduceIte, pure,
    Numeral.value]

end Json

namespace Decimal

open Json Text

variable {d : Decimal}

theorem isDigit_of_mem_figures {c : Char} (h : c ∈ d.figures) : isDigit c = true :=
  isDigit_of_mem_digits d.digits h

/-- The first digits of a decimal other than zero begin with another digit than zero. -/
theorem not_leadingZero_of_prefix (h : d.digits ≠ 0) {run : List Char}
    (hrun : run.head? = d.figures.head?) : ¬ (run.head? = some '0' ∧ run ≠ ['0']) := by
  rintro ⟨hhead, -⟩
  rw [hrun] at hhead
  exact h (eq_zero_of_head?_digits hhead)

theorem isDigit_of_mem_zeros {count : Nat} {c : Char} (h : c ∈ List.replicate count '0') :
    isDigit c = true := by
  rw [List.eq_of_mem_replicate h]
  decide

theorem isDigit_of_mem_zero {c : Char} (h : c ∈ ['0']) : isDigit c = true := by
  rw [List.mem_singleton.mp h]
  decide

/-- A decimal without digits is written as a zero. -/
theorem figures_of_digits (h : d.digits = 0) : d.figures = ['0'] := by
  rw [figures, h, Text.digits, if_pos (by decide)]
  rfl

/-- A decimal with its point in place is a numeral. -/
theorem exists_text_eq_positional (h : d.digits = 0 → d.exponent = 0) :
    ∃ numeral : Numeral, numeral.text = d.positional := by
  have hne : d.figures ≠ [] := digits_ne_nil d.digits
  rw [positional]
  split_ifs with hwhole hmixed
  · -- The point stands behind all digits.
    refine ⟨⟨d.figures ++ List.replicate d.exponent.toNat '0', ['0'], none, ?_, by simp [hne], ?_,
      fun _ => isDigit_of_mem_zero, by simp⟩, ?_⟩
    · exact fun c hc => (List.mem_append.mp hc).elim isDigit_of_mem_figures isDigit_of_mem_zeros
    · by_cases hzero : d.digits = 0
      · -- The plain zero has no zeros behind it.
        rw [h hzero, figures_of_digits hzero]
        decide
      · obtain ⟨c, front, hfigures⟩ := List.exists_cons_of_ne_nil hne
        exact not_leadingZero_of_prefix hzero (by simp [hfigures])
    · simp [Numeral.text, Numeral.fractionText, exponentText]
  · -- The point stands among the digits.
    have hcut : 0 < (↑d.figures.length + d.exponent).toNat ∧
        (↑d.figures.length + d.exponent).toNat < d.figures.length := by omega
    generalize (↑d.figures.length + d.exponent).toNat = cut at hcut ⊢
    have hdrop : d.figures.drop cut ≠ [] := by
      rw [ne_eq, List.drop_eq_nil_iff]
      omega
    have hzero : d.digits ≠ 0 := by
      intro hzero
      rw [figures_of_digits hzero, List.length_singleton] at hcut
      omega
    refine ⟨⟨d.figures.take cut, d.figures.drop cut, none, ?_, ?_, ?_, ?_, ?_⟩, ?_⟩
    · exact fun c hc => isDigit_of_mem_figures (List.mem_of_mem_take hc)
    · simp only [ne_eq, List.take_eq_nil_iff, hne, or_false]
      omega
    · refine not_leadingZero_of_prefix hzero ?_
      rw [List.head?_take, if_neg (by omega)]
    · exact fun c hc => isDigit_of_mem_figures (List.mem_of_mem_drop hc)
    · exact fun hempty => hdrop hempty.1
    · rw [Numeral.text, Numeral.fractionText, if_neg hdrop]
      simp [exponentText]
  · -- The point stands in front of all digits.
    refine ⟨⟨['0'], List.replicate (-(↑d.figures.length + d.exponent)).toNat '0' ++ d.figures, none,
      fun _ => isDigit_of_mem_zero, by simp, by simp, ?_, by simp [hne]⟩, ?_⟩
    · exact fun c hc => (List.mem_append.mp hc).elim isDigit_of_mem_zeros isDigit_of_mem_figures
    · simp [Numeral.text, Numeral.fractionText, exponentText, hne]

/-- So is a decimal with an exponent. -/
theorem exists_text_eq_scientific (d : Decimal) :
    ∃ numeral : Numeral, numeral.text = d.scientific := by
  obtain ⟨c, front, hfigures⟩ := List.exists_cons_of_ne_nil (digits_ne_nil d.digits)
  change d.figures = c :: front at hfigures
  have hdigit : ∀ other ∈ c :: front, isDigit other = true := by
    rw [← hfigures]
    exact fun _ => isDigit_of_mem_figures
  refine ⟨⟨[c], front, some (decide (d.leading < 0), d.leading.natAbs), ?_, by simp, ?_, ?_,
    by simp⟩, ?_⟩
  · intro other hother
    rw [List.mem_singleton.mp hother]
    exact hdigit c List.mem_cons_self
  · -- A digit that stands alone may be a zero.
    rintro ⟨hhead, hne⟩
    exact hne (by simpa using hhead)
  · exact fun other hother => hdigit other (List.mem_cons_of_mem c hother)
  · rw [scientific, hfigures]
    cases front <;> simp [Numeral.text, Numeral.fractionText, exponentText]

end Decimal

namespace Binary64

open Json

/-- The text of a double is its sign and a numeral. -/
theorem exists_text_eq (x : Binary64) :
    ∃ numeral : Numeral, x.text = (if x.isNegative then ['-'] else []) ++ numeral.text := by
  have hzero : x.shortest.digits = 0 → x.shortest.exponent = 0 := by
    intro h
    rw [shortest_eq_of_digits h]
  have hnumeral : ∃ numeral : Numeral, numeral.text =
      if -5 ≤ x.shortest.leading ∧ x.shortest.leading ≤ 15 then x.shortest.positional
      else x.shortest.scientific := by
    split_ifs
    · exact Decimal.exists_text_eq_positional hzero
    · exact Decimal.exists_text_eq_scientific x.shortest
  obtain ⟨numeral, hnumeral⟩ := hnumeral
  refine ⟨numeral, ?_⟩
  rw [text, sign, hnumeral]

/-- The double that the text of a double is read as. -/
def reread (x : Binary64) : Binary64 :=
  match readNumber x.text with
  | some (.float y, _) => y
  | _ => x

/-- A written double is read as a double, whatever stands behind it. -/
theorem readNumber_text (x : Binary64) {rest : List Char} (h : EndsNumber rest) :
    readNumber (x.text ++ rest) = some (.float x.reread, rest) := by
  obtain ⟨numeral, htext⟩ := x.exists_text_eq
  have hread := readNumber_numeral x.isNegative numeral endsNumber_nil
  rw [List.append_nil, ← htext] at hread
  rw [reread, hread, htext, List.append_assoc]
  exact readNumber_numeral x.isNegative numeral h

/-- The first character of a written double is a digit or a minus sign. -/
theorem exists_text_eq_cons (x : Binary64) :
    ∃ c rest, x.text = c :: rest ∧ (Text.isDigit c = true ∨ c = '-') := by
  obtain ⟨numeral, htext⟩ := x.exists_text_eq
  obtain ⟨c, front, hrun⟩ := List.exists_cons_of_ne_nil numeral.run_ne_nil
  rw [htext, Numeral.text, hrun]
  split_ifs
  · exact ⟨'-', _, rfl, .inr rfl⟩
  · exact ⟨c, _, rfl, .inl (numeral.isDigit_run c (by simp [hrun]))⟩

end Binary64

end KeyedStore
