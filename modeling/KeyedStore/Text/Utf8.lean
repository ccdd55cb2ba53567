/-!
# Texts in bytes

Reading bytes as the UTF-8 form of a text. A byte that begins no character is noticed and passed
over, so that the characters behind it can still be read; `charsOfUtf8?` takes only bytes in which
every one belongs to a character.

## References

- SPEC_FULL.md, section 10.8, the connection string and the files of variables
-/

namespace KeyedStore.Text

/-- How many bytes follow a byte that begins a character, and the bits of the character in it. -/
def leadingByte? (byte : UInt8) : Option (Nat × Nat) :=
  let n := byte.toNat
  if n < 0x80 then some (0, n)
  else if 0xC0 ≤ n ∧ n < 0xE0 then some (1, n - 0xC0)
  else if 0xE0 ≤ n ∧ n < 0xF0 then some (2, n - 0xE0)
  else if 0xF0 ≤ n ∧ n < 0xF8 then some (3, n - 0xF0)
  else none

/-- The character that bytes begin with, and the bytes behind it. -/
def firstChar? : List UInt8 → Option (Char × List UInt8)
  | [] => none
  | byte :: rest =>
    match leadingByte? byte with
    | none => none
    | some (count, bits) =>
      let c := Char.ofNat ((rest.take count).foldl (fun n byte => 64 * n + byte.toNat % 64) bits)
      -- Only the shortest form counts, and it must be there in full.
      if String.utf8EncodeChar c = byte :: rest.take count then some (c, rest.drop count) else none

/-- A character is read from its own bytes. -/
theorem eq_append_of_firstChar? {bytes rest : List UInt8} {c : Char}
    (h : firstChar? bytes = some (c, rest)) : bytes = String.utf8EncodeChar c ++ rest := by
  cases bytes with
  | nil => simp [firstChar?] at h
  | cons byte others =>
    simp only [firstChar?] at h
    split at h
    · simp at h
    · split at h
      · rename_i same
        simp only [Option.some.injEq, Prod.mk.injEq] at h
        -- The bytes have been compared with those of the character.
        obtain ⟨rfl, rfl⟩ := h
        rw [same, List.cons_append, List.take_append_drop]
      · simp at h

/-- Fewer bytes are left behind a character. -/
theorem length_lt_of_firstChar? {bytes rest : List UInt8} {c : Char}
    (h : firstChar? bytes = some (c, rest)) : rest.length < bytes.length := by
  have positive : 0 < (String.utf8EncodeChar c).length := by
    rw [String.length_utf8EncodeChar]
    exact c.utf8Size_pos
  have whole := congrArg List.length (eq_append_of_firstChar? h)
  rw [List.length_append] at whole
  omega

/-- The characters of bytes, with `none` for every byte that belongs to no character. -/
def charsOfUtf8 (bytes : List UInt8) : List (Option Char) :=
  match bytes with
  | [] => []
  | byte :: others =>
    match _read : firstChar? (byte :: others) with
    | some (c, rest) => some c :: charsOfUtf8 rest
    | none => none :: charsOfUtf8 others
termination_by bytes.length
decreasing_by
  · exact length_lt_of_firstChar? ‹_›
  · simp

/-- The characters of bytes that are a text. -/
def charsOfUtf8? (bytes : List UInt8) : Option (List Char) :=
  (charsOfUtf8 bytes).mapM id

end KeyedStore.Text
