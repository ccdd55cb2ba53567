import KeyedStore.Number.Binary64

/-!
# Shortest decimals

The decimal with the fewest digits among those that round to a given double, and of several such
decimals the nearest one. A value halfway between two of them goes to the one whose last digit is
even.

The search tries one digit, then two, and so on. On the grid of each length only the two
neighbours of the value can be nearest, and whether one of them reads back is decided by rounding
it. Seventeen digits always read back.

## References

- SPEC_FULL.md, section 4.2, numbers in the intermediate text (`to_intermediate_json`)
-/

namespace KeyedStore

/-- A decimal: `digits · 10 ^ exponent`. -/
structure Decimal where
  /-- All the digits, read as one number. -/
  digits : Nat
  /-- The power of ten of the last digit. -/
  exponent : Int
deriving DecidableEq

namespace Binary64

/-- The largest `k` up to `bound` with `10 ^ k ≤ numerator / denominator`. -/
def decimalPlaces (numerator denominator : Nat) : Nat → Nat
  | 0 => 0
  | bound + 1 =>
    if denominator * Nat.pow 10 (bound + 1) ≤ numerator then bound + 1
    else decimalPlaces numerator denominator bound

/-- The power of ten of the leading digit of a finite double other than zero. The value is first
multiplied by `10 ^ 324`, which makes every double at least one. The estimate from the binary
logarithm is at most two too large. -/
def leadingPower (x : Binary64) : Int :=
  let scaled := x.units * Nat.pow 10 324
  let estimate := Nat.log2 (scaled / one) * 30103 / 100000 + 2
  (decimalPlaces scaled one estimate : Int) - 324

/-- The neighbour of a value from below, and how the value lies between it and the next one, on
the grid of the multiples of `10 ^ step`. -/
def neighbour (x : Binary64) (step : Int) : Nat × Ordering :=
  -- At most one of the two powers is more than one.
  let numerator := x.units * Nat.pow 10 (-step).toNat
  let denominator := one * Nat.pow 10 step.toNat
  let below := numerator / denominator
  (below, compare (2 * (numerator % denominator)) denominator)

/-- The decimal of a grid that reads back as the value, the nearer one if there are two. -/
def onGrid? (x : Binary64) (step : Int) : Option Decimal :=
  let (below, position) := x.neighbour step
  let readsBack (digits : Nat) : Bool := ofDecimal x.isNegative digits step = x
  match readsBack below, readsBack (below + 1) with
  | false, false => none
  | true, false => some ⟨below, step⟩
  | false, true => some ⟨below + 1, step⟩
  -- Both neighbours read back: the nearer one is taken, and the even one in the middle.
  | true, true =>
    let upper : Bool := match position with
      | .lt => false
      | .gt => true
      | .eq => below % 2 = 1
    some ⟨if upper then below + 1 else below, step⟩

/-- Remove trailing zeros of the digits. -/
def strip : Nat → Decimal → Decimal
  | 0, d => d
  | bound + 1, d =>
    if d.digits % 10 = 0 ∧ d.digits ≠ 0 then strip bound ⟨d.digits / 10, d.exponent + 1⟩ else d

/-- The shortest decimal of a finite double, without its sign. -/
def shortest (x : Binary64) : Decimal :=
  if x.units = 0 then ⟨0, 0⟩
  else
    let power := x.leadingPower
    let found := (List.range 17).findSome? fun (more : Nat) => x.onGrid? (power - more)
    -- Seventeen digits always read back, so the search does not fail.
    strip 17 (found.getD ⟨(x.neighbour (power - 16)).1, power - 16⟩)

end Binary64

end KeyedStore
