import KeyedStore.Text.Hex
import KeyedStore.Text.Hidden

/-!
# Quoted texts

A text between double quotes as a diagnostic shows it. Quotes and backslashes get a backslash;
the usual controls have a letter each; other hidden characters are written by their code point.

## References

- SPEC_FULL.md, section 7, the diagnostics that quote a text
-/

namespace KeyedStore.Text

/-- One character inside a quoted text. -/
def quotedChar (c : Char) : List Char :=
  match c with
  | '\x00' => ['\\', '0']
  | '\t' => ['\\', 't']
  | '\r' => ['\\', 'r']
  | '\n' => ['\\', 'n']
  | '\\' => ['\\', '\\']
  | '"' => ['\\', '"']
  | ' ' => [' ']
  | c => if isHidden c then ['\\', 'u', '\x7b'] ++ hexDigits c.toNat ++ ['\x7d'] else [c]

/-- A text between double quotes. -/
def quoted (text : String) : String :=
  String.ofList (['"'] ++ text.toList.flatMap quotedChar ++ ['"'])

end KeyedStore.Text
