import KeyedStore.Json.Basic
import KeyedStore.Number.Notation
import KeyedStore.Text.Hex

/-!
# The compact text of JSON

No blanks, pairs in their own order. In a string the two delimiters and the controls are escaped;
every other character stands for itself.

## References

- SPEC_FULL.md, section 4.2, step 3 of loading: the intermediate text (`to_intermediate_json`)
-/

namespace KeyedStore.Json

open Text

/-- One character inside a string. -/
def escaped (c : Char) : List Char :=
  match c with
  | '"' => ['\\', '"']
  | '\\' => ['\\', '\\']
  | '\x08' => ['\\', 'b']
  | '\x0c' => ['\\', 'f']
  | '\n' => ['\\', 'n']
  | '\r' => ['\\', 'r']
  | '\t' => ['\\', 't']
  | c =>
    if c.toNat < 32 then ['\\', 'u', '0', '0', hexDigit (c.toNat / 16), hexDigit (c.toNat % 16)]
    else [c]

/-- A string between its quotes. -/
def stringText (value : String) : List Char :=
  '"' :: (value.toList.flatMap escaped ++ ['"'])

mutual

/-- The compact text of a value. -/
def render : Json → List Char
  | .null => "null".toList
  | .bool value => if value then "true".toList else "false".toList
  | .whole value => signed value
  | .float value => value.text
  | .string value => stringText value
  | .array items => '[' :: (renderItems items ++ [']'])
  | .object pairs => '\x7b' :: (renderPairs pairs ++ ['\x7d'])

/-- The items of a list with commas between them. -/
def renderItems : List Json → List Char
  | [] => []
  | [item] => render item
  | item :: items => render item ++ ',' :: renderItems items

/-- The pairs of an object with commas between them. -/
def renderPairs : List (String × Json) → List Char
  | [] => []
  | [(name, value)] => stringText name ++ ':' :: render value
  | (name, value) :: pairs => stringText name ++ ':' :: (render value ++ ',' :: renderPairs pairs)

end

/-- The compact text of a value, as a string. -/
def text (value : Json) : String :=
  String.ofList value.render

end KeyedStore.Json
