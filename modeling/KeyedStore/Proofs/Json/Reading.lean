import KeyedStore.Proofs.Json.Numbers
import KeyedStore.Proofs.Json.Strings

/-!
# Reading written JSON

The compact text of a value is read as the value again, except that a double may come back as
another one. This holds of every value whose whole numbers a reader takes for whole numbers; such
values are called writable. A writable value without doubles is legible: its text is read as the
value itself.

- `reread`: what the text of a value is read as;
- `readValue_render`: a written value is read, whatever ends the number it may end with;
- `read?_render_writable`: the text of a writable value is read as what `reread` makes of it;
- `read?_render`: the text of a legible value is read as the value.

The reader is bounded by a number of steps. Two steps for each character of the text are enough,
which is what `read?` gives it.

## References

- SPEC_FULL.md, section 4.2, step 3 and step 4 of loading: the intermediate text
-/

namespace KeyedStore.Json

open Text

/-! ## Legible values -/

mutual

/-- There are no doubles, and every whole number lies in the range of 64 bits, signed or not. -/
def Legible : Json → Prop
  | .whole n => -2 ^ 63 ≤ n ∧ n < 2 ^ 64
  | .float _ => False
  | .array items => LegibleItems items
  | .object pairs => LegiblePairs pairs
  | .null | .bool _ | .string _ => True

/-- All items of a list are legible. -/
def LegibleItems : List Json → Prop
  | [] => True
  | item :: items => Legible item ∧ LegibleItems items

/-- All values of an object are legible. -/
def LegiblePairs : List (String × Json) → Prop
  | [] => True
  | (_, value) :: pairs => Legible value ∧ LegiblePairs pairs

end

/-- Pairs are legible exactly if each of their values is. -/
theorem legiblePairs_iff {pairs : List (String × Json)} :
    LegiblePairs pairs ↔ ∀ pair ∈ pairs, Legible pair.2 := by
  induction pairs with
  | nil => simp [LegiblePairs]
  | cons pair pairs ih =>
    obtain ⟨name, value⟩ := pair
    simp [LegiblePairs, ih]

/-! ## Writable values -/

mutual

/-- Every whole number lies in the range of 64 bits, signed or not. There may be doubles. -/
def Writable : Json → Prop
  | .whole n => -2 ^ 63 ≤ n ∧ n < 2 ^ 64
  | .array items => WritableItems items
  | .object pairs => WritablePairs pairs
  | .null | .bool _ | .float _ | .string _ => True

/-- All items of a list are writable. -/
def WritableItems : List Json → Prop
  | [] => True
  | item :: items => Writable item ∧ WritableItems items

/-- All values of an object are writable. -/
def WritablePairs : List (String × Json) → Prop
  | [] => True
  | (_, value) :: pairs => Writable value ∧ WritablePairs pairs

end

mutual

/-- What the text of a value is read as: every double is what its own text is read as. -/
def reread : Json → Json
  | .float x => .float x.reread
  | .array items => .array (rereadItems items)
  | .object pairs => .object (rereadPairs pairs)
  | .null => .null
  | .bool value => .bool value
  | .whole n => .whole n
  | .string value => .string value

/-- What the items of a list are read as. -/
def rereadItems : List Json → List Json
  | [] => []
  | item :: items => reread item :: rereadItems items

/-- What the values of an object are read as. -/
def rereadPairs : List (String × Json) → List (String × Json)
  | [] => []
  | (name, value) :: pairs => (name, reread value) :: rereadPairs pairs

end

mutual

/-- Legible values are writable, and there is no double in them that could come back as another. -/
theorem Legible.reread_eq : ∀ {value : Json}, Legible value → Writable value ∧ value.reread = value
  | .null, _ | .bool _, _ | .string _, _ => ⟨trivial, rfl⟩
  | .whole _, h => ⟨h, rfl⟩
  | .float _, h => absurd h (by simp [Legible])
  | .array _, h => ⟨(LegibleItems.reread_eq h).1, congrArg array (LegibleItems.reread_eq h).2⟩
  | .object _, h => ⟨(LegiblePairs.reread_eq h).1, congrArg object (LegiblePairs.reread_eq h).2⟩

/-- So are the items of a list. -/
theorem LegibleItems.reread_eq : ∀ {items : List Json}, LegibleItems items →
    WritableItems items ∧ rereadItems items = items
  | [], _ => ⟨trivial, rfl⟩
  | _ :: _, ⟨hitem, hitems⟩ =>
    ⟨⟨hitem.reread_eq.1, hitems.reread_eq.1⟩,
      congrArg₂ List.cons hitem.reread_eq.2 hitems.reread_eq.2⟩

/-- So are the values of an object. -/
theorem LegiblePairs.reread_eq : ∀ {pairs : List (String × Json)}, LegiblePairs pairs →
    WritablePairs pairs ∧ rereadPairs pairs = pairs
  | [], _ => ⟨trivial, rfl⟩
  | (name, _) :: _, ⟨hvalue, hpairs⟩ =>
    ⟨⟨hvalue.reread_eq.1, hpairs.reread_eq.1⟩,
      congrArg₂ List.cons (congrArg (Prod.mk name) hvalue.reread_eq.2) hpairs.reread_eq.2⟩

end

/-! ## Values -/

/-- A character that is no blank ends the blanks. -/
theorem skipBlanks_cons {c : Char} (h : ¬ (c = ' ' ∨ c = '\n' ∨ c = '\t' ∨ c = '\r'))
    (rest : List Char) : skipBlanks (c :: rest) = c :: rest := by
  rw [skipBlanks, List.dropWhile_cons_of_neg]
  simpa using h

/-- A value that begins like a number is read as a number. -/
theorem readValue_number {c : Char} (hc : isDigit c = true ∨ c = '-') (bound : Nat)
    (rest : List Char) : readValue (bound + 1) (c :: rest) = readNumber (c :: rest) := by
  have hblank : ¬ (c = ' ' ∨ c = '\n' ∨ c = '\t' ∨ c = '\r') := by
    rintro (rfl | rfl | rfl | rfl) <;> revert hc <;> decide
  rw [readValue.eq_def]
  simp only [skipBlanks_cons hblank]
  -- Every other value begins with a character that is neither a digit nor a minus sign.
  split
  all_goals first
    | rfl
    | rename_i heq
      obtain ⟨rfl, -⟩ := List.cons.inj heq
      exact absurd hc (by decide)

theorem readValue_signed {n : Int} (hlow : -2 ^ 63 ≤ n) (hhigh : n < 2 ^ 64) (bound : Nat)
    {rest : List Char} (h : EndsNumber rest) :
    readValue (bound + 1) (signed n ++ rest) = some (.whole n, rest) := by
  have hread := readNumber_signed hlow hhigh h
  obtain ⟨c, tail, hsigned, hc⟩ := exists_signed_eq_cons n
  rw [hsigned, List.cons_append] at hread ⊢
  rw [readValue_number hc, hread]

theorem readValue_text (x : Binary64) (bound : Nat) {rest : List Char} (h : EndsNumber rest) :
    readValue (bound + 1) (x.text ++ rest) = some (.float x.reread, rest) := by
  have hread := x.readNumber_text h
  obtain ⟨c, tail, htext, hc⟩ := x.exists_text_eq_cons
  rw [htext, List.cons_append] at hread ⊢
  rw [readValue_number hc, hread]

theorem readValue_stringText (value : String) (bound : Nat) (rest : List Char) :
    readValue (bound + 1) (stringText value ++ rest) = some (.string value, rest) := by
  have hblank : ¬ ('"' = ' ' ∨ '"' = '\n' ∨ '"' = '\t' ∨ '"' = '\r') := by decide
  rw [stringText, List.cons_append, List.append_assoc, List.singleton_append, readValue.eq_def]
  simp only [skipBlanks_cons hblank, readString_flatMap_escaped, Option.map_some,
    String.ofList_toList]

/-- What a number begins with is neither a blank nor a closing bracket. -/
theorem not_blank_of_number {c : Char} (hc : isDigit c = true ∨ c = '-') :
    c ≠ ']' ∧ ¬ (c = ' ' ∨ c = '\n' ∨ c = '\t' ∨ c = '\r') := by
  constructor
  · rintro rfl
    exact absurd hc (by decide)
  · rintro (rfl | rfl | rfl | rfl) <;> exact absurd hc (by decide)

/-- The text of a value begins neither with a blank nor with a closing bracket. -/
theorem exists_render_eq_cons (value : Json) :
    ∃ c rest, value.render = c :: rest ∧ c ≠ ']' ∧
      ¬ (c = ' ' ∨ c = '\n' ∨ c = '\t' ∨ c = '\r') := by
  cases value with
  | null => exact ⟨'n', _, rfl, by decide, by decide⟩
  | bool value =>
    cases value with
    | false => exact ⟨'f', _, rfl, by decide, by decide⟩
    | true => exact ⟨'t', _, rfl, by decide, by decide⟩
  | whole n =>
    obtain ⟨c, rest, hsigned, hc⟩ := exists_signed_eq_cons n
    exact ⟨c, rest, hsigned, not_blank_of_number hc⟩
  | float x =>
    obtain ⟨c, rest, htext, hc⟩ := x.exists_text_eq_cons
    exact ⟨c, rest, htext, not_blank_of_number hc⟩
  | string value => exact ⟨'"', _, rfl, by decide, by decide⟩
  | array items => exact ⟨'[', _, rfl, by decide, by decide⟩
  | object pairs => exact ⟨'\x7b', _, rfl, by decide, by decide⟩

/-- Neither do the items of a list. -/
theorem exists_renderItems_eq_cons (item : Json) (items : List Json) :
    ∃ c rest, renderItems (item :: items) = c :: rest ∧ c ≠ ']' ∧
      ¬ (c = ' ' ∨ c = '\n' ∨ c = '\t' ∨ c = '\r') := by
  obtain ⟨c, rest, hrender, hc⟩ := exists_render_eq_cons item
  cases items with
  | nil => exact ⟨c, rest, hrender, hc⟩
  | cons next items =>
    refine ⟨c, rest ++ ',' :: renderItems (next :: items), ?_, hc⟩
    rw [renderItems, hrender, List.cons_append]
    exact List.cons_ne_nil _ _

/-- The pairs of an object begin with the quote of the first name. -/
theorem exists_renderPairs_eq_cons (pair : String × Json) (pairs : List (String × Json)) :
    ∃ rest, renderPairs (pair :: pairs) = '"' :: rest := by
  obtain ⟨name, value⟩ := pair
  cases pairs with
  | nil => exact ⟨_, rfl⟩
  | cons next pairs => exact ⟨_, rfl⟩

/-- No value is written as an empty text. -/
theorem length_render_pos (value : Json) : 0 < value.render.length := by
  obtain ⟨c, rest, hrender, -⟩ := exists_render_eq_cons value
  rw [hrender]
  exact Nat.succ_pos _

mutual

/-- A written value is read again, whatever stands behind it ending the number that it may end
with. The reader needs at most two steps for each character. -/
theorem readValue_render : ∀ (value : Json) (bound : Nat) (rest : List Char), Writable value →
    EndsNumber rest → 2 * value.render.length ≤ bound + 1 →
    readValue (bound + 1) (value.render ++ rest) = some (value.reread, rest)
  | .null, bound, rest, _, _, _ => by simp [render, reread, readValue.eq_def, skipBlanks]
  | .bool false, bound, rest, _, _, _ => by
    simp [render, reread, readValue.eq_def, skipBlanks]
  | .bool true, bound, rest, _, _, _ => by
    simp [render, reread, readValue.eq_def, skipBlanks]
  | .whole n, bound, rest, h, hrest, _ => readValue_signed h.1 h.2 bound hrest
  | .float x, bound, rest, _, hrest, _ => readValue_text x bound hrest
  | .string value, bound, rest, _, _, _ => readValue_stringText value bound rest
  | .array [], bound, rest, _, _, _ => by
    simp [render, renderItems, reread, rereadItems, readValue.eq_def, skipBlanks]
  | .array (item :: items), bound, rest, h, _, hbound => by
    simp only [render, List.length_cons, List.length_append, List.length_nil] at hbound
    -- The brackets pay for the step into the list.
    obtain ⟨fewer, rfl⟩ : ∃ fewer, bound = fewer + 1 := ⟨bound - 1, by omega⟩
    have hread := readItems_renderItems item items fewer rest h (by omega)
    -- The first item does not look like the end of the list.
    obtain ⟨c, tail, hrender, hc, hblank⟩ := exists_renderItems_eq_cons item items
    rw [hrender, List.cons_append] at hread
    rw [render, List.cons_append, List.append_assoc, hrender, List.cons_append, readValue.eq_def]
    simp [skipBlanks_cons hblank, skipBlanks_cons (c := '['), hc, hread, reread]
  | .object [], bound, rest, _, _, _ => by
    simp [render, renderPairs, reread, rereadPairs, readValue.eq_def, skipBlanks]
  | .object (pair :: pairs), bound, rest, h, _, hbound => by
    simp only [render, List.length_cons, List.length_append, List.length_nil] at hbound
    obtain ⟨fewer, rfl⟩ : ∃ fewer, bound = fewer + 1 := ⟨bound - 1, by omega⟩
    have hread := readPairs_renderPairs pair pairs fewer rest h (by omega)
    obtain ⟨tail, hrender⟩ := exists_renderPairs_eq_cons pair pairs
    rw [hrender, List.cons_append] at hread
    rw [render, List.cons_append, List.append_assoc, hrender, List.cons_append, readValue.eq_def]
    simp [skipBlanks, hread, reread]

/-- The items of a written list are read again. -/
theorem readItems_renderItems : ∀ (item : Json) (items : List Json) (bound : Nat)
    (rest : List Char), WritableItems (item :: items) →
    2 * (renderItems (item :: items)).length ≤ bound →
    readItems (bound + 1) (renderItems (item :: items) ++ ']' :: rest) =
      some (rereadItems (item :: items), rest)
  | item, [], bound, rest, h, hbound => by
    simp only [renderItems] at hbound
    have hpos := length_render_pos item
    obtain ⟨fewer, rfl⟩ : ∃ fewer, bound = fewer + 1 := ⟨bound - 1, by omega⟩
    have hitem := readValue_render item fewer (']' :: rest) h.1 (endsNumber_bracket rest) hbound
    rw [renderItems, readItems.eq_def]
    simp [hitem, skipBlanks, rereadItems]
  | item, next :: items, bound, rest, h, hbound => by
    simp only [renderItems, List.length_append, List.length_cons] at hbound
    -- The comma pays for the step to the next item.
    obtain ⟨fewer, rfl⟩ : ∃ fewer, bound = fewer + 1 := ⟨bound - 1, by omega⟩
    have hitem := readValue_render item fewer (',' :: (renderItems (next :: items) ++ ']' :: rest))
      h.1 (endsNumber_comma _) (by omega)
    have hitems := readItems_renderItems next items fewer rest h.2 (by omega)
    rw [renderItems, List.append_assoc, List.cons_append, readItems.eq_def]
    · simp [hitem, hitems, skipBlanks, rereadItems]
    · simp

/-- The pairs of a written object are read again. -/
theorem readPairs_renderPairs : ∀ (pair : String × Json) (pairs : List (String × Json))
    (bound : Nat) (rest : List Char), WritablePairs (pair :: pairs) →
    2 * (renderPairs (pair :: pairs)).length ≤ bound →
    readPairs (bound + 1) (renderPairs (pair :: pairs) ++ '\x7d' :: rest) =
      some (rereadPairs (pair :: pairs), rest)
  | (name, value), [], bound, rest, h, hbound => by
    simp only [renderPairs, stringText, List.length_append, List.length_cons] at hbound
    obtain ⟨fewer, rfl⟩ : ∃ fewer, bound = fewer + 1 := ⟨bound - 1, by omega⟩
    have hvalue := readValue_render value fewer ('\x7d' :: rest) h.1 (endsNumber_brace rest)
      (by omega)
    rw [renderPairs, stringText, readPairs.eq_def]
    simp [readString_flatMap_escaped, hvalue, skipBlanks, rereadPairs]
  | (name, value), next :: pairs, bound, rest, h, hbound => by
    simp only [renderPairs, stringText, List.length_append, List.length_cons] at hbound
    obtain ⟨fewer, rfl⟩ : ∃ fewer, bound = fewer + 1 := ⟨bound - 1, by omega⟩
    have hvalue := readValue_render value fewer
      (',' :: (renderPairs (next :: pairs) ++ '\x7d' :: rest)) h.1 (endsNumber_comma _) (by omega)
    have hpairs := readPairs_renderPairs next pairs fewer rest h.2 (by omega)
    rw [renderPairs, stringText, readPairs.eq_def]
    · simp [readString_flatMap_escaped, hvalue, hpairs, skipBlanks, rereadPairs]
    · simp

end

/-- The text of a writable value is read as the value, save for its doubles. -/
theorem read?_render_writable {value : Json} (h : Writable value) :
    read? value.render = some value.reread := by
  have hread := readValue_render value (2 * value.render.length) [] h endsNumber_nil (by omega)
  rw [List.append_nil] at hread
  rw [read?, hread]
  simp [skipBlanks]

/-- The text of a legible value is read as the value. -/
theorem read?_render {value : Json} (h : Legible value) : read? value.render = some value := by
  rw [read?_render_writable h.reread_eq.1, h.reread_eq.2]

end KeyedStore.Json
