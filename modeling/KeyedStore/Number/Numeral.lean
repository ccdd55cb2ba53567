import KeyedStore.Number.Binary64
import KeyedStore.Text.Basic
import KeyedStore.Text.Digits

/-!
# Doubles from text

Reading a numeral as the double nearest to it. The numeral has digits with an optional point
among, before or after them, an optional exponent and an optional sign; infinities and NaN have
names in letters of any case.

## References

- SPEC_FULL.md, section 4.2, numbers in the intermediate text (`decode_structured`)
-/

namespace KeyedStore.Binary64

open Text

/-- Read an optional exponent that ends the text. -/
def exponentPart? : List Char → Option Int
  | [] => some 0
  | c :: rest => if c = 'e' ∨ c = 'E' then signed? rest else none

/-- The double nearest to digits times a power of ten. Powers so large or small that the result is
an infinity or zero whatever the digits are need no arithmetic. -/
def nearest (negative : Bool) (run : List Char) (exponent : Int) : Binary64 :=
  let figures := run.dropWhile (· = '0')
  let leading := exponent + figures.length
  if figures = [] ∨ leading < -400 then ofMagnitude negative 0
  else if 400 < leading then infinity negative
  else ofDecimal negative (digitsValue figures) exponent

/-- Read digits with an optional point and an optional exponent. -/
def unsignedNumeral? (negative : Bool) (chars : List Char) : Option Binary64 :=
  let whole := chars.takeWhile isDigit
  let rest := chars.dropWhile isDigit
  let (fraction, rest) := match rest with
    | '.' :: rest => (rest.takeWhile isDigit, rest.dropWhile isDigit)
    | rest => ([], rest)
  if whole ++ fraction = [] then none
  else (exponentPart? rest).map fun power =>
    nearest negative (whole ++ fraction) (power - fraction.length)

/-- Read a double from a whole text. -/
def ofText? (text : String) : Option Binary64 :=
  let (negative, body) := match text.toList with
    | '-' :: rest => (true, rest)
    | '+' :: rest => (false, rest)
    | rest => (false, rest)
  let word := lower body
  if word = "inf".toList ∨ word = "infinity".toList then some (infinity negative)
  else if word = "nan".toList then some nan
  else unsignedNumeral? negative body

end KeyedStore.Binary64
