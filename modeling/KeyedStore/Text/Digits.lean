/-!
# Numbers in digits

Writing a natural number in decimal digits, and reading one back. Reading takes any number of
leading zeros; nothing but the ten ASCII digits is a digit. A number that has to fit 64 bits is read
within them, so that a run of digits is given up where its value would leave them.

## References

- SPEC_FULL.md, section 10.8, the numbers of the configuration
-/

namespace KeyedStore.Text

/-- The character of a digit below ten. -/
def digitChar (d : Nat) : Char :=
  Char.ofNat (48 + d)

/-- Whether a character is one of the ten ASCII digits. -/
def isDigit (c : Char) : Bool :=
  48 ≤ c.toNat && c.toNat ≤ 57

/-- The value of a digit character. -/
def digitValue (c : Char) : Nat :=
  c.toNat - 48

/-- A natural number in decimal digits, without leading zeros. -/
def digits (n : Nat) : List Char :=
  -- The last digit is the remainder; the others are the digits of the quotient.
  if n < 10 then [digitChar n] else digits (n / 10) ++ [digitChar (n % 10)]
termination_by n
decreasing_by omega

/-- The number that a list of digit characters writes. -/
def digitsValue (chars : List Char) : Nat :=
  chars.foldl (fun value c => 10 * value + digitValue c) 0

/-- An integer in decimal digits, with a minus sign in front if it is negative. -/
def signed (n : Int) : List Char :=
  if n < 0 then '-' :: digits n.natAbs else digits n.natAbs

/-- An integer in decimal digits, as a text. -/
def decimal (n : Int) : String :=
  String.ofList (signed n)

/-- At least `width` digits of a number, filled with zeros in front. -/
def padded (width n : Nat) : List Char :=
  List.replicate (width - (digits n).length) '0' ++ digits n

/-- Read a non-empty run of digits that makes up the whole text. -/
def natural? (chars : List Char) : Option Nat :=
  if chars ≠ [] ∧ chars.all isDigit = true then some (digitsValue chars) else none

/-- Read a whole text as an unsigned number: digits with at most one plus sign in front. -/
def unsigned? : List Char → Option Nat
  | '+' :: rest => natural? rest
  | chars => natural? chars

/-- Put one more digit behind a number of 64 bits, unless the longer number does not fit them. -/
def pushDigit? (value : UInt64) (c : Char) : Option UInt64 :=
  -- The longer number is exact; only then is it held against the range.
  let longer := 10 * value.toNat + digitValue c
  if isDigit c = true ∧ longer < UInt64.size then some (.ofNat longer) else none

/-- Read a non-empty run of digits that makes up the whole text, if the number has no more than 64
bits. -/
def word? (chars : List Char) : Option UInt64 :=
  if chars = [] then none else chars.foldlM pushDigit? 0

/-- Read a whole text as an unsigned number of 64 bits: digits with at most one plus sign in
front. -/
def unsignedWord? : List Char → Option UInt64
  | '+' :: rest => word? rest
  | chars => word? chars

/-- Read a whole text as a signed number: digits with at most one sign in front. -/
def signed? : List Char → Option Int
  | '-' :: rest => (natural? rest).map fun n => -(n : Int)
  | '+' :: rest => (natural? rest).map Int.ofNat
  | chars => (natural? chars).map Int.ofNat

end KeyedStore.Text
