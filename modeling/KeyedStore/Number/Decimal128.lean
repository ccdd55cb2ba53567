import KeyedStore.Text.Basic
import KeyedStore.Text.Digits

/-!
# Decimal numbers of 128 bits

Decimals of up to thirty-four digits in their binary encoding: a sign bit, fourteen bits of
exponent and a coefficient of 113 bits, or a mark for an infinity or a NaN. A coefficient of more
than thirty-four digits stands for zero.

The text of a decimal keeps every digit of the coefficient, trailing zeros included. Reading a text
never rounds: digits that would be lost must be zeros.

## References

- SPEC_FULL.md, section 10.4, decimals as decimal strings (`bson_to_json`)
-/

namespace KeyedStore

open Text

/-- A decimal of 128 bits. -/
structure Decimal128 where
  /-- The bits, the sign highest. -/
  bits : BitVec 128
deriving DecidableEq

namespace Decimal128

/-- What a decimal of 128 bits stands for. -/
inductive Meaning where
  /-- Not a number; the flag marks the one that signals. -/
  | nan (signalling : Bool)
  /-- An infinity. -/
  | infinity
  /-- The number `coefficient · 10 ^ exponent`. -/
  | finite (coefficient : Nat) (exponent : Int)
deriving DecidableEq

/-- The number of digits that a coefficient can hold. -/
def maxDigits : Nat := 34

/-- The least exponent. -/
def minExponent : Int := -6176

/-- The greatest exponent. -/
def maxExponent : Int := 6111

/-- Whether the sign bit is set. -/
def isNegative (x : Decimal128) : Bool :=
  x.bits.msb

/-- What the bits below the sign stand for. -/
def meaning (x : Decimal128) : Meaning :=
  let n := x.bits.toNat
  -- The five bits below the sign mark infinities, NaNs and coefficients that are too large.
  let mark := n >>> 122 % 32
  if mark = 31 then .nan (n.testBit 121)
  else if mark = 30 then .infinity
  else if 24 ≤ mark then .finite 0 ((n >>> 111 % 16384 : Nat) + minExponent)
  else
    let coefficient := n % (1 <<< 113)
    let exponent : Int := (n >>> 113 % 16384 : Nat) + minExponent
    .finite (if coefficient < Nat.pow 10 maxDigits then coefficient else 0) exponent

/-- The bits of a sign and a meaning. -/
def ofMeaning (negative : Bool) (meaning : Meaning) : Decimal128 :=
  let sign := if negative then 1 <<< 127 else 0
  let rest := match meaning with
    | .nan signalling => 31 <<< 122 + if signalling then 1 <<< 121 else 0
    | .infinity => 30 <<< 122
    | .finite coefficient exponent => (exponent - minExponent).toNat <<< 113 + coefficient
  ⟨BitVec.ofNat 128 (sign + rest)⟩

/-- The decimal of sixteen bytes, the lowest first. -/
def ofBytes? (bytes : List UInt8) : Option Decimal128 :=
  if bytes.length = 16 then
    some ⟨BitVec.ofNat 128 (bytes.foldr (fun byte rest => byte.toNat + 256 * rest) 0)⟩
  else none

/-- A coefficient and an exponent as text: with a point where that needs at most six places more
than the coefficient has, with an exponent otherwise. -/
def finiteText (coefficient : Nat) (exponent : Int) : List Char :=
  let figures := digits coefficient
  let leading : Int := exponent + ((figures.length : Int) - 1)
  if exponent ≤ 0 ∧ -6 ≤ leading then
    let places := exponent.natAbs
    if places = 0 then figures
    else if figures.length ≤ places then
      ['0', '.'] ++ List.replicate (places - figures.length) '0' ++ figures
    else figures.take (figures.length - places) ++ ['.'] ++ figures.drop (figures.length - places)
  else
    let point := if figures.length = 1 then [] else ['.']
    let sign := if 0 < leading then ['+'] else []
    figures.take 1 ++ point ++ figures.drop 1 ++ ['E'] ++ sign ++ signed leading

/-- The text of a decimal. A NaN has no sign. -/
def text (x : Decimal128) : List Char :=
  let sign := if x.isNegative then ['-'] else []
  match x.meaning with
  | .nan _ => "NaN".toList
  | .infinity => sign ++ "Infinity".toList
  | .finite coefficient exponent => sign ++ finiteText coefficient exponent

/-- The first `count` digits, if all the others are zeros. -/
def cutExact? (figures : List Char) (count : Nat) : Option (List Char) :=
  if (figures.drop count).all (· = '0') then some (figures.take count) else none

/-- Fit digits and an exponent into the limits of the encoding without changing the number. -/
def fit? (figures : List Char) (exponent : Int) : Option (List Char × Int) := do
  -- Digits beyond the last that fits must be zeros and go into the exponent.
  let short ← if figures.length ≤ maxDigits then some figures else cutExact? figures maxDigits
  let raised := exponent + ((figures.length - short.length : Nat) : Int)
  if raised < minExponent then
    -- Zeros at the end are cut off until the exponent is large enough.
    let lost := (minExponent - raised).toNat
    if short = ['0'] then some (short, minExponent)
    else if short.length < lost then none
    else (cutExact? short (short.length - lost)).map (·, minExponent)
  else if maxExponent < raised then
    -- Zeros are appended until the exponent is small enough.
    let added := (raised - maxExponent).toNat
    if short = ['0'] then some (short, maxExponent)
    else if maxDigits < short.length + added then none
    else some (short ++ List.replicate added '0', maxExponent)
  else some (short, raised)

/-- Read digits with an optional point and an optional exponent. -/
def readFinite? (chars : List Char) : Option Meaning := do
  let (mantissa, power) ← match cut 'e' chars with
    | (before, none) => some (before, (0 : Int))
    | (before, some after) => (signed? after).map (before, ·)
  if power < -32768 ∨ 32768 ≤ power then none
  -- Each place after the point lowers the exponent by one.
  let (joined, exponent) := match cut '.' mantissa with
    | (before, none) => (before, power)
    | (before, some after) => (before ++ after, power - after.length)
  if exponent < -32768 then none
  let figures := match joined.dropWhile (· = '0') with
    | [] => ['0']
    | rest => rest
  let (fitted, limited) ← fit? figures exponent
  let coefficient ← unsigned? fitted
  some (.finite coefficient limited)

/-- Read a decimal: an optional sign and a number, an infinity or a NaN, in letters of any case. -/
def ofText? (chars : List Char) : Option Decimal128 :=
  let (negative, body) := match chars with
    | '-' :: rest => (true, rest)
    | '+' :: rest => (false, rest)
    | rest => (false, rest)
  let word := lower body
  let meaning :=
    if word = "nan".toList then some (.nan false)
    else if word = "snan".toList then some (.nan true)
    else if word = "infinity".toList ∨ word = "inf".toList then some .infinity
    else readFinite? word
  meaning.map (ofMeaning negative)

end Decimal128

end KeyedStore
