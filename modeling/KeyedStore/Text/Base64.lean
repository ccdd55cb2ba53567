/-!
# Base 64

Bytes in the standard alphabet: three bytes are four letters, and the last group is filled with
equals signs.

## References

- SPEC_FULL.md, section 10.4, binary values as base 64 (`bson_to_json`)
-/

namespace KeyedStore.Text

/-- The letter of a value below sixty-four: capitals, small letters, digits, plus and slash. -/
def base64Letter (value : Nat) : Char :=
  if value < 26 then Char.ofNat (65 + value)
  else if value < 52 then Char.ofNat (71 + value)
  else if value < 62 then Char.ofNat (value - 4)
  else if value = 62 then '+'
  else '/'

/-- Bytes in base 64. -/
def base64OfBytes : List UInt8 → List Char
  | a :: b :: c :: rest =>
    -- Three times eight bits are four times six.
    let group := a.toNat * 65536 + b.toNat * 256 + c.toNat
    base64Letter (group / 262144) :: base64Letter (group / 4096 % 64) ::
      base64Letter (group / 64 % 64) :: base64Letter (group % 64) :: base64OfBytes rest
  | [a, b] =>
    let group := a.toNat * 1024 + b.toNat * 4
    [base64Letter (group / 4096), base64Letter (group / 64 % 64), base64Letter (group % 64), '=']
  | [a] =>
    let group := a.toNat * 16
    [base64Letter (group / 64), base64Letter (group % 64), '=', '=']
  | [] => []

/-- The value of a letter. -/
def base64Value? (c : Char) : Option Nat :=
  if 65 ≤ c.toNat ∧ c.toNat ≤ 90 then some (c.toNat - 65)
  else if 97 ≤ c.toNat ∧ c.toNat ≤ 122 then some (c.toNat - 71)
  else if 48 ≤ c.toNat ∧ c.toNat ≤ 57 then some (c.toNat + 4)
  else if c = '+' then some 62
  else if c = '/' then some 63
  else none

/-- Read base 64: whole groups of four letters, the last one filled as it is written. Letters
whose spare bits are not zero are refused. -/
def bytesOfBase64? : List Char → Option (List UInt8)
  | [] => some []
  | [a, b, '=', '='] => do
    let group := (← base64Value? a) * 64 + (← base64Value? b)
    if group % 16 = 0 then some [UInt8.ofNat (group / 16)] else none
  | [a, b, c, '='] => do
    let group := (← base64Value? a) * 4096 + (← base64Value? b) * 64 + (← base64Value? c)
    if group % 4 = 0 then some [UInt8.ofNat (group / 1024), UInt8.ofNat (group / 4)] else none
  | a :: b :: c :: d :: rest => do
    let group := (← base64Value? a) * 262144 + (← base64Value? b) * 4096 +
      (← base64Value? c) * 64 + (← base64Value? d)
    let bytes ← bytesOfBase64? rest
    return UInt8.ofNat (group / 65536) :: UInt8.ofNat (group / 256) :: UInt8.ofNat group :: bytes
  | _ => none

end KeyedStore.Text
