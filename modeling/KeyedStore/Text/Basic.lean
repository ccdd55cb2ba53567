/-!
# Texts

What is read and cut in texts all over the library: blanks at the ends, the parts between marks,
letters of either case, the beginning of a text for a diagnostic, and classes of characters that a
table lists.

A blank is white space in the sense of the Unicode property: a zero-width space is not one, the wide
space and the no-break space are.

Of letters only the ASCII ones have two cases here, which is enough for words of ASCII letters:
apart from the Kelvin sign no other character has one of them as its small letter, and no word that
this library reads in any case has a small `k`.

## References

- SPEC_FULL.md, section 10.1, Utilities: `truncate_for_log`; section 10.8, the blanks around
  settings
-/

namespace KeyedStore.Text

/-! ## Blanks -/

/-- Whether a character is white space: the six ASCII ones and nineteen others. -/
def isBlank (c : Char) : Bool :=
  (0x9 ≤ c.toNat && c.toNat ≤ 0xD) || c.toNat == 0x20 || c.toNat == 0x85 || c.toNat == 0xA0 ||
    c.toNat == 0x1680 || (0x2000 ≤ c.toNat && c.toNat ≤ 0x200A) || c.toNat == 0x2028 ||
    c.toNat == 0x2029 || c.toNat == 0x202F || c.toNat == 0x205F || c.toNat == 0x3000

/-- Every character that is white space in the narrow sense is blank. -/
theorem isBlank_of_isWhitespace {c : Char} (h : c.isWhitespace = true) : isBlank c = true := by
  simp only [Char.isWhitespace, Bool.or_eq_true, decide_eq_true_eq] at h
  rcases h with ((h | h) | h) | h <;> subst h <;> decide

/-- The characters from the first that is not blank. -/
def trimStart (chars : List Char) : List Char :=
  chars.dropWhile isBlank

/-- The characters up to the last that is not blank. -/
def trimEnd (chars : List Char) : List Char :=
  (chars.reverse.dropWhile isBlank).reverse

/-- The characters from the first to the last that is not blank. -/
def trim (chars : List Char) : List Char :=
  trimEnd (trimStart chars)

/-- Whether a text holds nothing but blanks. -/
def allBlank (text : String) : Bool :=
  text.toList.all isBlank

/-! ## Parts -/

/-- The parts of a text between marks; there is always at least one. -/
def splitOn (mark : Char) : List Char → List (List Char)
  | [] => [[]]
  | c :: rest =>
    if c = mark then [] :: splitOn mark rest
    else
      match splitOn mark rest with
      | first :: others => (c :: first) :: others
      | [] => [[c]]

/-- The text before the first mark and the text after it, if there is one. -/
def cut (mark : Char) (chars : List Char) : List Char × Option (List Char) :=
  match chars.dropWhile (· ≠ mark) with
  | [] => (chars, none)
  | _ :: rest => (chars.takeWhile (· ≠ mark), some rest)

/-- The lines of a text. A line break ends a line, so that one at the end begins no further line; a
carriage return before it belongs to it. -/
def lines (chars : List Char) : List (List Char) :=
  let parts := splitOn '\n' chars
  let withoutReturn (part : List Char) : List Char :=
    if part.getLast? = some '\r' then part.dropLast else part
  let last := parts.getLastD []
  parts.dropLast.map withoutReturn ++ if last = [] then [] else [last]

/-! ## Letters of either case -/

/-- The characters with small ASCII letters in place of capital ones. -/
def lower (chars : List Char) : List Char :=
  chars.map Char.toLower

/-- A text with small ASCII letters in place of capital ones. -/
def lowered (text : String) : String :=
  String.ofList (lower text.toList)

/-! ## Excerpts -/

/-- The first `limit` characters of a text, or all of it if it is no longer. The measure is
characters, so a cut never falls inside one. -/
def excerpt (text : String) (limit : Nat) : String :=
  String.ofList (text.toList.take limit)

/-- An excerpt fits its limit. -/
theorem length_excerpt_le (text : String) (limit : Nat) :
    (excerpt text limit).length ≤ limit := by
  rw [excerpt, String.length_ofList, List.length_take]
  exact Nat.min_le_left limit text.toList.length

/-! ## Classes of characters -/

/-- Whether a character lies in one of the ranges. -/
def inRanges (ranges : List (Nat × Nat)) (c : Char) : Bool :=
  ranges.any fun range => range.1 ≤ c.toNat && c.toNat ≤ range.2

/-- A character of a listed range lies in the ranges. -/
theorem inRanges_of_mem {ranges : List (Nat × Nat)} {range : Nat × Nat} {c : Char}
    (listed : range ∈ ranges) (least : range.1 ≤ c.toNat) (greatest : c.toNat ≤ range.2) :
    inRanges ranges c = true := by
  refine List.any_eq_true.2 ⟨range, listed, ?_⟩
  simp [least, greatest]

end KeyedStore.Text
