import KeyedStore.Text.Basic
import KeyedStore.Text.Digits
import KeyedStore.Text.Percent

/-!
# Addresses of servers

A server is named by a host with an optional service number behind a colon, or by the path of a
socket. A host is a name or, between brackets, an address of eight groups of sixteen bits. Two
colons in a row stand for at least one group of zeros, and the last two groups may be four decimal
bytes with points between them.

## References

- SPEC_FULL.md, section 10.8, the connection string of the configuration; section 10.5:
  `connect` of the database, up to the server
-/

namespace KeyedStore.Server

open Text

/-- Whether a text is a byte in decimal digits, without leading zeros. -/
def isDecimalByte (chars : List Char) : Bool :=
  (chars = ['0'] ∨ chars.head? ≠ some '0') ∧ (natural? chars).any (· < 256)

/-- Whether a text is four bytes with points between them. -/
def isDottedBytes (chars : List Char) : Bool :=
  let parts := splitOn '.' chars
  parts.length = 4 ∧ parts.all isDecimalByte

/-- Whether a text is a group of sixteen bits: one to four hexadecimal digits. -/
def isGroup (chars : List Char) : Bool :=
  chars ≠ [] ∧ chars.length ≤ 4 ∧ chars.all fun c => (hexValue? c).isSome

/-- How many groups some parts are, if each is a group and the last one a group or four bytes. -/
def groupCount? : List (List Char) → Option Nat
  | [] => some 0
  | [part] => if isGroup part then some 1 else if isDottedBytes part then some 2 else none
  | part :: rest => if isGroup part then (groupCount? rest).map (· + 1) else none

/-- The texts before and after the first two colons in a row. -/
def cutGap? : List Char → Option (List Char × List Char)
  | [] => none
  | ':' :: ':' :: rest => some ([], rest)
  | c :: rest => (cutGap? rest).map fun (before, after) => (c :: before, after)

/-- The parts of a side of the gap, which may be empty. -/
def sideParts (chars : List Char) : List (List Char) :=
  if chars = [] then [] else splitOn ':' chars

/-- Whether a text is an address of eight groups. -/
def isNumericAddress (chars : List Char) : Bool :=
  match cutGap? chars with
  | none => groupCount? (splitOn ':' chars) = some 8
  | some (before, after) =>
    match groupCount? (sideParts before), groupCount? (sideParts after) with
    -- Bytes with points can only end an address, and the gap stands for something.
    | some front, some back => '.' ∉ before ∧ front + back < 8
    | _, _ => false

/-- Whether a text is the number of a service on a host: positive and of sixteen bits. -/
def isServiceNumber (chars : List Char) : Bool :=
  match unsigned? chars with
  | some n => 0 < n ∧ n < UInt16.size
  | none => false

/-- Whether a text names a server. -/
def isAddress (chars : List Char) : Bool :=
  if ".sock".toList.isSuffixOf chars then (percentDecoded? chars).isSome
  else
    match chars with
    | '[' :: rest =>
      match cut ']' rest with
      | (address, some []) => isNumericAddress address
      | (address, some (':' :: number)) => isNumericAddress address ∧ isServiceNumber number
      | _ => false
    | _ =>
      match cut ':' chars with
      | (name, none) => name ≠ []
      | (name, some number) => name ≠ [] ∧ isServiceNumber number

end KeyedStore.Server
