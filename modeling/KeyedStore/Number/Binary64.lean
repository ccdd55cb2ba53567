/-!
# Binary numbers of 64 bits

A double by its bits. A finite double is `significand · 2 ^ scale` in units of `2 ^ (-1074)`, the
least positive double, so that every operation here is exact arithmetic on natural numbers
followed by one rounding to the nearest double, a half going to the even neighbour.

## References

- SPEC_FULL.md, section 10.4, doubles in the bridge to JSON (`bson_to_json`)
-/

namespace KeyedStore

/-- A double: a sign bit, eleven bits of exponent and fifty-two bits of fraction. -/
structure Binary64 where
  /-- The bits, the sign highest. -/
  bits : UInt64
deriving DecidableEq

namespace Binary64

/-- Whether the sign bit is set. -/
def isNegative (x : Binary64) : Bool :=
  x.bits.toNat.testBit 63

/-- The eleven bits of the exponent. -/
def exponentField (x : Binary64) : Nat :=
  x.bits.toNat >>> 52 % 2048

/-- The fifty-two bits of the fraction. -/
def fraction (x : Binary64) : Nat :=
  x.bits.toNat % (1 <<< 52)

/-- Whether the double is a number, not an infinity and not a NaN. -/
def isFinite (x : Binary64) : Bool :=
  x.exponentField ≠ 2047

/-- Whether the double is a NaN. -/
def isNaN (x : Binary64) : Bool :=
  x.exponentField = 2047 ∧ x.fraction ≠ 0

/-- The significand of a finite double, with the leading one that is not written. -/
def significand (x : Binary64) : Nat :=
  if x.exponentField = 0 then x.fraction else 1 <<< 52 + x.fraction

/-- The power of two of a finite double, counted from the least positive double. -/
def scale (x : Binary64) : Nat :=
  x.exponentField - 1

/-- The distance of a finite double from zero, in units of `2 ^ (-1074)`. -/
def units (x : Binary64) : Nat :=
  x.significand <<< x.scale

/-- The number of units in one. -/
def one : Nat :=
  1 <<< 1074

/-- A double of a sign and the sixty-three bits below it. -/
def ofMagnitude (negative : Bool) (magnitude : Nat) : Binary64 :=
  ⟨UInt64.ofNat (magnitude + if negative then 1 <<< 63 else 0)⟩

/-- The infinity of a sign. -/
def infinity (negative : Bool) : Binary64 :=
  ofMagnitude negative (2047 <<< 52)

/-- The NaN with the least fraction that is quiet. -/
def nan : Binary64 :=
  ofMagnitude false (2047 <<< 52 + 1 <<< 51)

/-- The quotient rounded to the nearest number, a half to the even one. -/
def roundedQuotient (numerator denominator : Nat) : Nat :=
  let quotient := numerator / denominator
  let rest := 2 * (numerator % denominator)
  if denominator < rest ∨ (rest = denominator ∧ quotient % 2 = 1) then quotient + 1 else quotient

/-- The double nearest to a quotient, in units, of two natural numbers; a quotient too large for
any double gives an infinity. The rounded significand and the scale add up to the bits, also where
rounding carries into the next power of two. -/
def ofUnits (negative : Bool) (numerator denominator : Nat) : Binary64 :=
  -- Fifty-three bits are kept; below the least normal double the scale stays at zero.
  let scale := Nat.log2 (numerator / denominator) - 52
  let magnitude := roundedQuotient numerator (denominator <<< scale) + scale <<< 52
  if magnitude < 2047 <<< 52 then ofMagnitude negative magnitude else infinity negative

/-- The double nearest to a natural number. -/
def ofNat (negative : Bool) (n : Nat) : Binary64 :=
  ofUnits negative (n * one) 1

/-- The double nearest to `digits · 10 ^ exponent`. -/
def ofDecimal (negative : Bool) (digits : Nat) (exponent : Int) : Binary64 :=
  if 0 ≤ exponent then ofUnits negative (digits * Nat.pow 10 exponent.toNat * one) 1
  else ofUnits negative (digits * one) (Nat.pow 10 exponent.natAbs)

/-- The rounded product of a finite double and a positive finite one. -/
def times (x y : Binary64) : Binary64 :=
  ofUnits x.isNegative (x.units * y.units) one

/-- The rounded quotient of a finite double and a positive finite one. -/
def dividedBy (x y : Binary64) : Binary64 :=
  ofUnits x.isNegative (x.units * one) y.units

end Binary64

end KeyedStore
