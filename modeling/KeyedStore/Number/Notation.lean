import KeyedStore.Number.Shortest
import KeyedStore.Text.Digits

/-!
# Numbers as text

Writing a finite double in its shortest digits: with the point at its place if the value is neither
large nor small, and with an exponent elsewhere. The positional form keeps at least one place after
the point, so that a double never looks like an integer.

Reading a numeral back multiplies or divides its digits by a power of ten in double arithmetic,
rounding once for each operation. This is exact for most numerals, and off by the last bit for a
few with many digits.

## References

- SPEC_FULL.md, section 4.2, numbers in the intermediate text (`to_intermediate_json`)
-/

namespace KeyedStore

namespace Decimal

/-- The digits of a decimal. -/
def figures (d : Decimal) : List Char :=
  Text.digits d.digits

/-- The power of ten of the leading digit. -/
def leading (d : Decimal) : Int :=
  d.exponent + ((d.figures.length : Int) - 1)

/-- The digits with the point at its place and at least one digit on either side of it. -/
def positional (d : Decimal) : List Char :=
  let count : Int := d.figures.length
  if 0 ≤ d.exponent then d.figures ++ List.replicate d.exponent.toNat '0' ++ ['.', '0']
  else if 0 < count + d.exponent then
    d.figures.take (count + d.exponent).toNat ++ ['.'] ++
      d.figures.drop (count + d.exponent).toNat
  else ['0', '.'] ++ List.replicate (-(count + d.exponent)).toNat '0' ++ d.figures

/-- The leading digit, the other digits after a point if there are any, and the exponent with its
sign. -/
def scientific (d : Decimal) : List Char :=
  let point := if d.figures.length = 1 then [] else ['.']
  let sign := if d.leading < 0 then '-' else '+'
  d.figures.take 1 ++ point ++ d.figures.drop 1 ++ ['e', sign] ++ Text.digits d.leading.natAbs

end Decimal

namespace Binary64

/-- A minus sign for a double whose sign bit is set, zero included. -/
def sign (x : Binary64) : List Char :=
  if x.isNegative then ['-'] else []

/-- A double as text: positional from `10 ^ (-5)` up to but not including `10 ^ 16`, scientific
elsewhere. -/
def text (x : Binary64) : List Char :=
  let d := x.shortest
  x.sign ++ if -5 ≤ d.leading ∧ d.leading ≤ 15 then d.positional else d.scientific

/-- The double nearest to `10 ^ power`. -/
def powerOfTen (power : Nat) : Binary64 :=
  ofNat false (Nat.pow 10 power)

/-- Divide by a power of ten, at most `10 ^ 308` at a time. -/
def overPowerOfTen (x : Binary64) : Nat → Nat → Binary64
  | 0, _ => x
  | rounds + 1, power =>
    if power ≤ 308 then x.dividedBy (powerOfTen power)
    else overPowerOfTen (x.dividedBy (powerOfTen 308)) rounds (power - 308)

/-- The double that a numeral `digits · 10 ^ exponent` is read as. -/
def ofNumeral (negative : Bool) (digits : Nat) (exponent : Int) : Binary64 :=
  let whole := ofNat negative digits
  if 308 < exponent then if digits = 0 then whole else infinity negative
  else if 0 ≤ exponent then whole.times (powerOfTen exponent.toNat)
  else whole.overPowerOfTen (exponent.natAbs / 308 + 1) exponent.natAbs

end Binary64

end KeyedStore
