import KeyedStore.Proofs.Text.Numerals
import KeyedStore.Settings.Basic
import Mathlib.Data.List.Induction
import Mathlib.Data.List.TakeWhile

/-!
# Numbers in settings

Which texts name a number, and what a setting makes of a text. A number is read within 64 bits, one
digit after the other; it is found exactly if the written number fits them, however many digits
there are.

- `InDigits`: a number as it is written in digits;
- `word?_eq_some_iff`: what is read within 64 bits is the written number;
- `Trimmed`, `trimmed_trim`, `Trimmed.eq_trim`: a text without the blanks at its ends;
- `Settings.Names`: a text that names a number;
- `Settings.Takes`: what a setting makes of a text;
- `Settings.poolSize_and_limit_named_or_usual`: the two settings that are numbers.

## References

- SPEC_FULL.md, section 10.8, Configuration: `parse_worker_pool_size`, `parse_diagnostic_limit`
-/

namespace KeyedStore

namespace Text

/-! ## Written numbers -/

/-- A number as it is written in decimal digits. There may be zeros in front. -/
inductive InDigits : List Char → Nat → Prop where
  /-- One digit is a number. -/
  | digit {d : Nat} (hdigit : d < 10) : InDigits [digitChar d] d
  /-- A digit behind a number is a number. -/
  | behind {chars : List Char} {n d : Nat} (h : InDigits chars n) (hdigit : d < 10) :
    InDigits (chars ++ [digitChar d]) (10 * n + d)

variable {c : Char} {chars body : List Char} {n : Nat} {word : UInt64}

namespace InDigits

theorem ne_nil (h : InDigits chars n) : chars ≠ [] := by
  cases h <;> simp

theorem isDigit_of_mem (h : InDigits chars n) : ∀ c ∈ chars, isDigit c = true := by
  induction h with
  | digit hdigit => exact List.forall_mem_singleton.mpr (isDigit_digitChar hdigit)
  | behind _ hdigit ih =>
    exact List.forall_mem_append.mpr
      ⟨ih, List.forall_mem_singleton.mpr (isDigit_digitChar hdigit)⟩

end InDigits

/-- The last digit of a number, and the number before it, if there is one. -/
theorem inDigits_concat_iff :
    InDigits (chars ++ [c]) n ↔ ∃ d < 10, c = digitChar d ∧
      (chars = [] ∧ n = d ∨ ∃ m, InDigits chars m ∧ n = 10 * m + d) := by
  constructor
  · intro h
    generalize hall : chars ++ [c] = all at h
    cases h with
    | digit hdigit =>
      obtain ⟨rfl, hlast⟩ := List.append_inj' (hall.trans (List.nil_append _).symm) rfl
      exact ⟨n, hdigit, by simpa using hlast, .inl ⟨rfl, rfl⟩⟩
    | @behind front m d h hdigit =>
      obtain ⟨rfl, hlast⟩ := List.append_inj' hall rfl
      exact ⟨d, hdigit, by simpa using hlast, .inr ⟨m, h, rfl⟩⟩
  · rintro ⟨d, hdigit, rfl, ⟨rfl, rfl⟩ | ⟨m, h, rfl⟩⟩
    · exact .digit hdigit
    · exact .behind h hdigit

/-! ## Numbers of 64 bits -/

/-- The value of a digit is below ten. -/
theorem digitValue_lt (h : isDigit c = true) : digitValue c < 10 := by
  have hrange : 48 ≤ c.toNat ∧ c.toNat ≤ 57 := by simpa [isDigit] using h
  rw [digitValue]
  omega

/-- A digit is the character of its value. -/
theorem digitChar_digitValue (h : isDigit c = true) : digitChar (digitValue c) = c := by
  have hrange : 48 ≤ c.toNat ∧ c.toNat ≤ 57 := by simpa [isDigit] using h
  rw [← Char.toNat_inj, toNat_digitChar (digitValue_lt h), digitValue]
  omega

/-- A digit can be put behind a number of 64 bits exactly if the longer number fits them. -/
theorem pushDigit?_eq_some_iff {value : UInt64} :
    pushDigit? value c = some word ↔
      ∃ d < 10, c = digitChar d ∧ word.toNat = 10 * value.toNat + d := by
  rw [pushDigit?, Option.ite_none_right_eq_some, Option.some.injEq]
  constructor
  · rintro ⟨⟨hdigit, hfits⟩, rfl⟩
    exact ⟨digitValue c, digitValue_lt hdigit, (digitChar_digitValue hdigit).symm,
      UInt64.toNat_ofNat_of_lt hfits⟩
  · rintro ⟨d, hd, rfl, hword⟩
    rw [digitValue_digitChar hd, ← hword]
    exact ⟨⟨isDigit_digitChar hd, word.toNat_lt_size⟩, UInt64.ofNat_toNat⟩

theorem word?_nil : word? [] = none :=
  rfl

/-- A run of characters is a number of 64 bits if what stands before its last character is one, or
nothing, and the last character can be put behind it. -/
theorem word?_concat_iff : word? (chars ++ [c]) = some word ↔
    (chars = [] ∧ pushDigit? 0 c = some word) ∨
      ∃ value, word? chars = some value ∧ pushDigit? value c = some word := by
  rw [word?, if_neg (by simp), List.foldlM_append]
  by_cases hchars : chars = []
  · subst hchars
    simp [word?_nil]
  · simp [word?, hchars, Option.bind_eq_some_iff]

/-- What is read within 64 bits is the written number. No number on the way to one that fits is too
long, so nothing that fits is given up. -/
theorem word?_eq_some_iff : word? chars = some word ↔ InDigits chars word.toNat := by
  induction chars using List.reverseRecOn generalizing word with
  | nil => exact ⟨fun h => absurd h (by simp [word?_nil]), fun h => absurd rfl h.ne_nil⟩
  | append_singleton chars c ih =>
    simp only [word?_concat_iff, inDigits_concat_iff, pushDigit?_eq_some_iff]
    constructor
    · rintro (⟨hnil, d, hd, hc, hword⟩ | ⟨value, hvalue, d, hd, hc, hword⟩)
      · exact ⟨d, hd, hc, .inl ⟨hnil, by simpa using hword⟩⟩
      · exact ⟨d, hd, hc, .inr ⟨value.toNat, ih.mp hvalue, hword⟩⟩
    · rintro ⟨d, hd, hc, ⟨hnil, hword⟩ | ⟨n, hn, hword⟩⟩
      · exact .inl ⟨hnil, d, hd, hc, by simpa using hword⟩
      · -- The number before the last digit is no greater, so it has been found as well.
        have hfits : n < UInt64.size := by
          have := word.toNat_lt_size
          omega
        have hvalue : (UInt64.ofNat n).toNat = n := UInt64.toNat_ofNat_of_lt hfits
        exact .inr ⟨.ofNat n, ih.mpr (hvalue.symm ▸ hn), d, hd, hc, by rw [hvalue, hword]⟩

/-- No number begins with a plus sign. -/
theorem not_inDigits_plus : ¬ InDigits ('+' :: chars) n :=
  fun h => absurd (h.isDigit_of_mem '+' List.mem_cons_self) (by decide)

/-- A plus sign may stand before a number, and nothing else. -/
theorem unsignedWord?_eq_some_iff :
    unsignedWord? chars = some word ↔ InDigits chars word.toNat ∨
      ∃ digits, chars = '+' :: digits ∧ InDigits digits word.toNat := by
  rw [unsignedWord?.eq_def]
  split
  · simp [word?_eq_some_iff, not_inDigits_plus]
  · rename_i hplus
    rw [word?_eq_some_iff]
    exact ⟨.inl, fun h => h.resolve_right fun ⟨digits, heq, _⟩ => hplus digits heq⟩

/-! ## Blanks at the ends -/

/-- `body` is a text without the blanks at its ends. -/
structure Trimmed (chars body : List Char) : Prop where
  /-- Nothing but blanks has been taken away. -/
  taken : ∃ before after, chars = before ++ body ++ after ∧ (∀ c ∈ before, isBlank c = true) ∧
    ∀ c ∈ after, isBlank c = true
  /-- No blank is left in front. -/
  front : ∀ c ∈ body.head?, isBlank c = false
  /-- No blank is left at the end. -/
  back : ∀ c ∈ body.getLast?, isBlank c = false

/-- Blanks at the beginning are taken away up to the first other character. -/
theorem isBlank_of_head?_trimStart (h : (trimStart chars).head? = some c) : isBlank c = false := by
  have hhead := List.head?_dropWhile_not isBlank chars
  rw [trimStart] at h
  rw [h] at hhead
  exact hhead

theorem exists_trimStart_append (chars : List Char) :
    ∃ before, chars = before ++ trimStart chars ∧ ∀ c ∈ before, isBlank c = true :=
  ⟨chars.takeWhile isBlank, List.takeWhile_append_dropWhile.symm,
    fun _ hmem => List.mem_takeWhile_imp hmem⟩

/-- The end is trimmed like the beginning of the reversed text. -/
theorem trimEnd_eq (chars : List Char) : trimEnd chars = (trimStart chars.reverse).reverse :=
  rfl

theorem exists_trimEnd_append (chars : List Char) :
    ∃ after, chars = trimEnd chars ++ after ∧ ∀ c ∈ after, isBlank c = true := by
  obtain ⟨before, heq, hblank⟩ := exists_trimStart_append chars.reverse
  refine ⟨before.reverse, ?_, by simpa using hblank⟩
  rw [trimEnd_eq, ← List.reverse_append, ← heq, List.reverse_reverse]

/-- A trimmed text is what is left between blanks. -/
theorem trimmed_trim (chars : List Char) : Trimmed chars (trim chars) := by
  obtain ⟨before, hbefore, hblank⟩ := exists_trimStart_append chars
  obtain ⟨after, hafter, hblank'⟩ := exists_trimEnd_append (trimStart chars)
  rw [← trim] at hafter
  refine ⟨⟨before, after, ?_, hblank, hblank'⟩, fun c hc => ?_, fun c hc => ?_⟩
  · rw [List.append_assoc, ← hafter]
    exact hbefore
  · -- What stands in front has been there before the end was trimmed.
    have hhead : (trimStart chars).head? = some c := by
      rw [hafter, List.head?_append, Option.mem_def.mp hc, Option.some_or]
    exact isBlank_of_head?_trimStart hhead
  · rw [trim, trimEnd_eq, List.getLast?_reverse] at hc
    exact isBlank_of_head?_trimStart hc

/-- Blanks in front of a text are all that is taken away there. -/
theorem trimStart_append {before : List Char} (hblank : ∀ c ∈ before, isBlank c = true)
    (hfront : ∀ c ∈ body.head?, isBlank c = false) : trimStart (before ++ body) = body := by
  rw [trimStart, List.dropWhile_append_of_pos hblank]
  cases body with
  | nil => rfl
  | cons c body => rw [List.dropWhile_cons_of_neg (by simp [hfront c rfl])]

/-- Blanks behind a text are all that is taken away there. -/
theorem trimEnd_append {after : List Char} (hblank : ∀ c ∈ after, isBlank c = true)
    (hback : ∀ c ∈ body.getLast?, isBlank c = false) : trimEnd (body ++ after) = body := by
  rw [trimEnd_eq, List.reverse_append, trimStart_append (by simpa using hblank),
    List.reverse_reverse]
  rwa [List.head?_reverse]

/-- There is one way to trim a text. -/
theorem Trimmed.eq_trim (h : Trimmed chars body) : body = trim chars := by
  obtain ⟨⟨before, after, rfl, hbefore, hafter⟩, hfront, hback⟩ := h
  cases body with
  | nil =>
    -- There is nothing but blanks, and they are all taken away in front.
    have hblank : ∀ c ∈ before ++ after, isBlank c = true :=
      List.forall_mem_append.mpr ⟨hbefore, hafter⟩
    rw [trim, List.append_nil, ← List.append_nil (before ++ after), trimStart_append hblank hfront]
    rfl
  | cons c body =>
    have hstart : trimStart (before ++ (c :: body ++ after)) = c :: body ++ after :=
      trimStart_append hbefore hfront
    rw [trim, List.append_assoc, hstart, trimEnd_append hafter hback]

end Text

namespace Settings

open Text

/-! ## Texts that name a number -/

/-- A text names a number if, without the blanks at its ends, it is the number written in digits,
with a plus sign in front or without. -/
def Names (text : String) (n : Nat) : Prop :=
  ∃ body, Trimmed text.toList body ∧
    (InDigits body n ∨ ∃ digits, body = '+' :: digits ∧ InDigits digits n)

variable {text : String} {n m : Nat} {word : UInt64}

/-- A number is found in a text exactly if the text names it and it fits 64 bits. -/
theorem number?_eq_some_iff : number? text = some word ↔ Names text word.toNat := by
  rw [number?, unsignedWord?_eq_some_iff]
  constructor
  · exact fun h => ⟨trim text.toList, trimmed_trim text.toList, h⟩
  · rintro ⟨body, hbody, h⟩
    rwa [← hbody.eq_trim]

/-! ## What a setting makes of a text -/

/-- What a setting takes from a text, if there is one: the number that the text names, if it is in
range, and otherwise the usual number. -/
structure Takes (least greatest usual : Nat) (text : Option String) (taken : Nat) : Prop where
  /-- The number is in range, whatever the text. -/
  inRange : least ≤ taken ∧ taken ≤ greatest
  /-- A number in range is taken as it is named. -/
  named : ∀ {named n}, text = some named → Names named n → least ≤ n → n ≤ greatest → taken = n
  /-- Where no number in range is named, the usual one is taken. -/
  usual : (∀ {named n}, text = some named → Names named n → ¬ (least ≤ n ∧ n ≤ greatest)) →
    taken = usual

section Takes

variable {least greatest : Nat} {usual : UInt64} {allowed : UInt64 → Bool} {text : Option String}

/-- The number that is found is one that the text names and that is in range. -/
theorem exists_names_of_filter
    (hallowed : ∀ word, allowed word = true ↔ least ≤ word.toNat ∧ word.toNat ≤ greatest)
    (h : (text.bind number?).filter allowed = some word) :
    ∃ named, text = some named ∧ Names named word.toNat ∧
      least ≤ word.toNat ∧ word.toNat ≤ greatest := by
  obtain ⟨hnumber, hword⟩ := Option.filter_eq_some_iff.mp h
  obtain ⟨named, htext, hnumber⟩ := Option.bind_eq_some_iff.mp hnumber
  exact ⟨named, htext, number?_eq_some_iff.mp hnumber, (hallowed word).mp hword⟩

/-- A number in range that a text names is found, if all such numbers fit 64 bits. -/
theorem filter_eq_of_names
    (hallowed : ∀ word, allowed word = true ↔ least ≤ word.toNat ∧ word.toNat ≤ greatest)
    (hgreatest : greatest < UInt64.size) {named : String} (hnames : Names named n)
    (hleast : least ≤ n) (hn : n ≤ greatest) :
    ((some named).bind number?).filter allowed = some (.ofNat n) := by
  have hnumber : (UInt64.ofNat n).toNat = n :=
    UInt64.toNat_ofNat_of_lt (Nat.lt_of_le_of_lt hn hgreatest)
  rw [Option.filter_eq_some_iff, Option.bind_some, number?_eq_some_iff, hallowed, hnumber]
  exact ⟨hnames, hleast, hn⟩

/-- What a setting takes if its numbers fit 64 bits. -/
theorem takes_numberOr
    (hallowed : ∀ word, allowed word = true ↔ least ≤ word.toNat ∧ word.toNat ≤ greatest)
    (hgreatest : greatest < UInt64.size) (husual : allowed usual = true) (text : Option String) :
    Takes least greatest usual.toNat text (numberOr usual allowed text) := by
  rw [numberOr]
  cases hfound : (text.bind number?).filter allowed with
  | none =>
    refine ⟨(hallowed usual).mp husual, ?_, fun _ => rfl⟩
    rintro named n rfl hnames hleast hn
    rw [filter_eq_of_names hallowed hgreatest hnames hleast hn] at hfound
    exact absurd hfound (by simp)
  | some word =>
    obtain ⟨named, rfl, hnames, hrange⟩ := exists_names_of_filter hallowed hfound
    refine ⟨hrange, ?_, fun hnone => absurd hrange (hnone rfl hnames)⟩
    rintro other n heq hother hleast hn
    rw [heq, filter_eq_of_names hallowed hgreatest hother hleast hn, Option.some.injEq] at hfound
    rw [Option.getD_some, ← hfound]
    exact UInt64.toNat_ofNat_of_lt (Nat.lt_of_le_of_lt hn hgreatest)

end Takes

/-- Whatever a text is, it sets the size of the pool to the number between 1 and 256 that it names,
or else to 16, and the limit of diagnostics to the positive number of 64 bits that it names, or else
to 500. -/
theorem poolSize_and_limit_named_or_usual (text : Option String) :
    Takes 1 256 16 text (poolSizeOf text) ∧
      Takes 1 (2 ^ 64 - 1) 500 text (diagnosticLimitOf text) := by
  constructor
  · show Takes 1 256 (16 : UInt64).toNat text (numberOr 16 (fun n => 1 ≤ n && n ≤ 256) text)
    refine takes_numberOr (fun word => ?_) (by decide) (by decide) text
    simp [UInt64.le_iff_toNat_le]
  · show Takes 1 (2 ^ 64 - 1) (500 : UInt64).toNat text (numberOr 500 (fun n => 0 < n) text)
    refine takes_numberOr (fun word => ?_) (by decide) (by decide) text
    have := word.toNat_lt
    simp only [UInt64.lt_iff_toNat_lt, decide_eq_true_eq, UInt64.toNat_zero]
    omega

/-- Wide blanks, a plus sign and zeros in front are no part of a number; a number of all 64 bits is
still one. -/
theorem poolSize_and_limit_named_or_usual_widest :
    poolSizeOf (some "\u3000\t+000256\u00a0") = 256 ∧
      diagnosticLimitOf (some "18446744073709551615") = 2 ^ 64 - 1 := by
  have hblank : number? "\u3000\t+000256\u00a0" = some 256 := by decide
  have hwidest : number? "18446744073709551615" = some 18446744073709551615 := by rfl
  constructor
  · exact (poolSize_and_limit_named_or_usual _).1.named rfl (number?_eq_some_iff.mp hblank)
      (by decide) (by decide)
  · exact (poolSize_and_limit_named_or_usual _).2.named rfl (number?_eq_some_iff.mp hwidest)
      (by decide) (by decide)

/-- A number of more than 64 bits is not cut to them: 16 is not taken for it. -/
example : diagnosticLimitOf (some "18446744073709551632") = 500 := by rfl

end Settings

end KeyedStore
