import KeyedStore.Json.Reader
import KeyedStore.Json.Text

/-!
# Reading written strings

A string is written character by character, `escaped` deciding what stands for one character. This
file shows that `readString` takes the characters back one by one, and with them the whole string,
whatever follows its closing quote:

- `readString_escaped`: what stands for one character is read as that character;
- `readString_flatMap_escaped`: a written string is read back.

## References

- SPEC_FULL.md, section 4.2, step 3 and step 4 of loading: the intermediate text
-/

namespace KeyedStore.Json

open Text

/-- The code points of the hexadecimal digits are those of two runs of ASCII. -/
theorem toNat_hexDigit {value : Nat} (h : value < 16) :
    (hexDigit value).toNat = if value < 10 then 48 + value else 87 + value := by
  unfold hexDigit
  have hvalid : (if value < 10 then 48 + value else 87 + value).isValidChar := by
    split <;> exact Or.inl (by omega)
  rw [Char.ofNat, dif_pos hvalid]
  rfl

/-- The value of a written hexadecimal digit is the one it was written for. -/
theorem hexValue?_hexDigit {value : Nat} (h : value < 16) :
    hexValue? (hexDigit value) = some value := by
  rw [hexValue?, toNat_hexDigit h]
  by_cases hten : value < 10
  · rw [if_pos hten, if_pos (by omega)]
    congr 1
    omega
  · rw [if_neg hten, if_neg (by omega), if_pos (by omega)]
    congr 1
    omega

theorem hexValue?_zero : hexValue? '0' = some 0 := by
  decide

/-- The four digits of a control character write its code. -/
theorem unit?_hexDigit {code : Nat} (h : code < 256) :
    unit? '0' '0' (hexDigit (code / 16)) (hexDigit (code % 16)) = some code := by
  rw [unit?, hexValue?_zero, hexValue?_hexDigit (by omega), hexValue?_hexDigit (by omega)]
  change some (((0 * 16 + 0) * 256 + code / 16 * 16) + code % 16) = some code
  congr 1
  omega

/-- A short escape is read as the character that it stands for. -/
theorem readString_shortEscape {letter c : Char} (hletter : shortEscape? letter = some c)
    (hunicode : letter ≠ 'u') (rest : List Char) :
    readString none ('\\' :: letter :: rest) = push c (readString none rest) := by
  rw [readString.eq_def]
  simp only [Char.reduceEq, ↓reduceIte]
  split
  · rename_i heq
    exact absurd (List.cons.inj heq).1 hunicode
  · rename_i heq
    obtain ⟨rfl, rfl⟩ := List.cons.inj heq
    rw [hletter]
  · rename_i heq
    exact absurd heq (List.cons_ne_nil _ _)

/-- The long escape of a control character is read as the character. -/
theorem readString_longEscape {c : Char} (h : c.toNat < 32) (rest : List Char) :
    readString none ('\\' :: 'u' :: '0' :: '0' :: hexDigit (c.toNat / 16) ::
      hexDigit (c.toNat % 16) :: rest) = push c (readString none rest) := by
  -- A control character is neither half of a character beyond the first plane.
  have hhigh : ¬ (0xD800 ≤ c.toNat ∧ c.toNat < 0xDC00) := by omega
  have hlow : ¬ (0xDC00 ≤ c.toNat ∧ c.toNat < 0xE000) := by omega
  have hunit := unit?_hexDigit (show c.toNat < 256 by omega)
  rw [readString.eq_3 _ _ _ _ _ _ _ hunit, if_neg (by decide), if_pos rfl, if_neg hhigh,
    if_neg hlow, Char.ofNat_toNat]

/-- A character that needs no escape is read as itself. -/
theorem readString_plain {c : Char} (hquote : c ≠ '"') (hslash : c ≠ '\\') (h : ¬ c.toNat < 32)
    (rest : List Char) : readString none (c :: rest) = push c (readString none rest) := by
  rw [readString.eq_def]
  simp [hquote, hslash, h]

/-- What stands for one character inside a string is read as that character. -/
theorem readString_escaped (c : Char) (rest : List Char) :
    readString none (escaped c ++ rest) = push c (readString none rest) := by
  unfold escaped
  split
  · exact readString_shortEscape (by decide) (by decide) rest
  · exact readString_shortEscape (by decide) (by decide) rest
  · exact readString_shortEscape (by decide) (by decide) rest
  · exact readString_shortEscape (by decide) (by decide) rest
  · exact readString_shortEscape (by decide) (by decide) rest
  · exact readString_shortEscape (by decide) (by decide) rest
  · exact readString_shortEscape (by decide) (by decide) rest
  · rename_i hquote hslash _ _ _ _ _
    split
    · rename_i h
      exact readString_longEscape h rest
    · rename_i h
      exact readString_plain hquote hslash h rest

/-- A written string is read back, with the text behind its closing quote left over. -/
theorem readString_flatMap_escaped (chars rest : List Char) :
    readString none (chars.flatMap escaped ++ '"' :: rest) = some (chars, rest) := by
  induction chars with
  | nil =>
    rw [List.flatMap_nil, List.nil_append, readString.eq_def]
    simp
  | cons c chars ih =>
    rw [List.flatMap_cons, List.append_assoc, readString_escaped, ih]
    rfl

end KeyedStore.Json
