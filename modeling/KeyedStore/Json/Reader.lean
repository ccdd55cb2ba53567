import KeyedStore.Json.Basic
import KeyedStore.Number.Notation
import KeyedStore.Text.Hex

/-!
# Reading JSON

A reader of JSON text on lists of characters. Blanks may stand around every token. Each part of the
reader takes the text that is left and returns what it read with the text that follows it.

A numeral without point and exponent is a whole number as long as it lies in the range of 64 bits,
signed or unsigned; every other numeral is a double.

## References

- SPEC_FULL.md, section 4.2, step 4 of loading: the intermediate text is parsed
  (`decode_structured`)
-/

namespace KeyedStore.Json

open Text

/-- The text from the first character that is not a blank. -/
def skipBlanks (chars : List Char) : List Char :=
  chars.dropWhile fun c => c = ' ' ∨ c = '\n' ∨ c = '\t' ∨ c = '\r'

/-- The number written by four hexadecimal digits. -/
def unit? (a b c d : Char) : Option Nat := do
  return ((← hexValue? a) * 16 + (← hexValue? b)) * 256 + (← hexValue? c) * 16 + (← hexValue? d)

/-- The character of a letter after a backslash. -/
def shortEscape? (letter : Char) : Option Char :=
  match letter with
  | '"' => some '"'
  | '\\' => some '\\'
  | '/' => some '/'
  | 'b' => some '\x08'
  | 'f' => some '\x0c'
  | 'n' => some '\n'
  | 'r' => some '\r'
  | 't' => some '\t'
  | _ => none

/-- Put a character in front of what was read after it. -/
def push (c : Char) (read : Option (List Char × List Char)) : Option (List Char × List Char) :=
  read.map fun (chars, rest) => (c :: chars, rest)

/-- Read a string from behind its opening quote to its closing one. A character beyond the first
plane may be escaped in two halves: the first half waits in `pending` for the second one, which
must follow at once. -/
def readString (pending : Option Nat) : List Char → Option (List Char × List Char)
  | [] => none
  | c :: rest =>
    if c = '"' then if pending.isSome then none else some ([], rest)
    else if c = '\\' then
      match rest with
      | 'u' :: d₁ :: d₂ :: d₃ :: d₄ :: rest =>
        match unit? d₁ d₂ d₃ d₄, pending with
        | none, _ => none
        | some code, none =>
          -- A first half waits for its second half; a second half does not come first.
          if 0xD800 ≤ code ∧ code < 0xDC00 then readString (some code) rest
          else if 0xDC00 ≤ code ∧ code < 0xE000 then none
          else push (Char.ofNat code) (readString none rest)
        | some code, some high =>
          if 0xDC00 ≤ code ∧ code < 0xE000 then
            push (Char.ofNat (0x10000 + (high - 0xD800) * 0x400 + (code - 0xDC00)))
              (readString none rest)
          else none
      -- No other escape may stand between two halves.
      | letter :: rest =>
        match shortEscape? letter, pending with
        | some c, none => push c (readString none rest)
        | _, _ => none
      | [] => none
    else if pending.isSome ∨ c.toNat < 32 then none
    else push c (readString none rest)

/-- Read a run of digits that holds at least one. -/
def readDigits (chars : List Char) : Option (List Char × List Char) :=
  match chars.takeWhile isDigit with
  | [] => none
  | run => some (run, chars.dropWhile isDigit)

/-- Read the digits after a point, if there is one. -/
def readFraction : List Char → Option (List Char × List Char)
  | '.' :: rest => readDigits rest
  | rest => some ([], rest)

/-- Read an exponent, if there is one. -/
def readExponent : List Char → Option (Option Int × List Char)
  | c :: rest =>
    if c = 'e' ∨ c = 'E' then
      let (negative, rest) := match rest with
        | '-' :: rest => (true, rest)
        | '+' :: rest => (false, rest)
        | rest => (false, rest)
      (readDigits rest).map fun (run, rest) =>
        let power : Int := digitsValue run
        (some (if negative then -power else power), rest)
    else some (none, c :: rest)
  | [] => some (none, [])

/-- The number that a numeral of digits without point and exponent writes. -/
def wholeNumber (negative : Bool) (n : Nat) : Json :=
  if negative then
    if 0 < n ∧ n ≤ 9223372036854775808 then .whole (-(n : Int)) else .float (Binary64.ofNat true n)
  else if n < 18446744073709551616 then .whole n
  else .float (Binary64.ofNat false n)

/-- Read a number. A zero in front of other digits is refused. -/
def readNumber (chars : List Char) : Option (Json × List Char) := do
  let (negative, rest) := match chars with
    | '-' :: rest => (true, rest)
    | rest => (false, rest)
  let (run, rest) ← readDigits rest
  if run.head? = some '0' ∧ run ≠ ['0'] then none
  let (fraction, rest) ← readFraction rest
  let (power, rest) ← readExponent rest
  -- Without point and exponent the numeral is a whole number.
  if fraction = [] ∧ power = none then return (wholeNumber negative (digitsValue run), rest)
  let exponent := power.getD 0 - fraction.length
  return (.float (Binary64.ofNumeral negative (digitsValue (run ++ fraction)) exponent), rest)

mutual

/-- Read a value. The first argument bounds the number of nested steps. -/
def readValue : Nat → List Char → Option (Json × List Char)
  | 0, _ => none
  | bound + 1, chars =>
    match skipBlanks chars with
    | 'n' :: 'u' :: 'l' :: 'l' :: rest => some (.null, rest)
    | 't' :: 'r' :: 'u' :: 'e' :: rest => some (.bool true, rest)
    | 'f' :: 'a' :: 'l' :: 's' :: 'e' :: rest => some (.bool false, rest)
    | '"' :: rest =>
      (readString none rest).map fun (value, rest) => (.string (String.ofList value), rest)
    | '[' :: rest =>
      match skipBlanks rest with
      | ']' :: rest => some (.array [], rest)
      | rest => (readItems bound rest).map fun (items, rest) => (.array items, rest)
    | '\x7b' :: rest =>
      match skipBlanks rest with
      | '\x7d' :: rest => some (.object [], rest)
      | rest => (readPairs bound rest).map fun (pairs, rest) => (.object pairs, rest)
    | chars => readNumber chars

/-- Read one item or more, to the closing bracket. -/
def readItems : Nat → List Char → Option (List Json × List Char)
  | 0, _ => none
  | bound + 1, chars => do
    let (item, rest) ← readValue bound chars
    match skipBlanks rest with
    | ',' :: rest => (readItems bound rest).map fun (items, rest) => (item :: items, rest)
    | ']' :: rest => some ([item], rest)
    | _ => none

/-- Read one pair or more, to the closing brace. -/
def readPairs : Nat → List Char → Option (List (String × Json) × List Char)
  | 0, _ => none
  | bound + 1, chars =>
    match skipBlanks chars with
    | '"' :: rest => do
      let (name, rest) ← readString none rest
      match skipBlanks rest with
      | ':' :: rest =>
        let (value, rest) ← readValue bound rest
        match skipBlanks rest with
        | ',' :: rest =>
          (readPairs bound rest).map fun (pairs, rest) =>
            ((String.ofList name, value) :: pairs, rest)
        | '\x7d' :: rest => some ([(String.ofList name, value)], rest)
        | _ => none
      | _ => none
    | _ => none

end

/-- Read a text that holds one value and nothing else. Two steps for each character and one more
are enough for every text. -/
def read? (chars : List Char) : Option Json :=
  match readValue (2 * chars.length + 1) chars with
  | some (value, rest) => if skipBlanks rest = [] then some value else none
  | none => none

end KeyedStore.Json
