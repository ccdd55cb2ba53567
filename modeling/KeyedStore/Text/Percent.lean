import KeyedStore.Text.Hex
import KeyedStore.Text.Utf8

/-!
# Texts with percent signs

Texts in which a percent sign with two hexadecimal digits stands for a byte. A percent sign before
anything else stands for itself. `percentDecoded?` refuses bytes that are not a text, and
`percentDecoded` puts a replacement character in their place.

## References

- SPEC_FULL.md, section 10.8, the connection string of the configuration
-/

namespace KeyedStore.Text

/-- The bytes of a text after its percent signs have been replaced. -/
def percentBytes : List Char → List UInt8
  | '%' :: high :: low :: rest =>
    match hexValue? high, hexValue? low with
    | some h, some l => UInt8.ofNat (16 * h + l) :: percentBytes rest
    | _, _ => 37 :: percentBytes (high :: low :: rest)
  | c :: rest => String.utf8EncodeChar c ++ percentBytes rest
  | [] => []

/-- The text that a text with percent signs stands for, if it is one. -/
def percentDecoded? (chars : List Char) : Option (List Char) :=
  charsOfUtf8? (percentBytes chars)

/-- The text that a text with percent signs stands for, with a replacement character for every byte
that belongs to no character. -/
def percentDecoded (chars : List Char) : List Char :=
  (charsOfUtf8 (percentBytes chars)).map (·.getD '\uFFFD')

end KeyedStore.Text
