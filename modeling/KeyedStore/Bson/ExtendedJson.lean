import KeyedStore.Bson.Value
import KeyedStore.Calendar.Reader
import KeyedStore.Number.Numeral
import KeyedStore.Text.Base64

/-!
# Extended JSON

Objects of one or two entries whose names begin with a dollar sign stand for values that JSON does
not have. `ExtendedJson.read?` finds the value that an object stands for; an object that does not
fit any of the forms stands for itself.

## References

- SPEC_FULL.md, section 4.2, step 3 of storing: what an object of a payload stands for in a document
  (`encode_structured`)
-/

namespace KeyedStore.ExtendedJson

open Text

/-- Read an integer of 32 bits from a whole text. -/
def int32? (text : String) : Option Int32 := do
  let n ← signed? text.toList
  if -2147483648 ≤ n ∧ n < 2147483648 then some (Int32.ofInt n) else none

/-- Read an integer of 64 bits from a whole text. -/
def int64? (text : String) : Option Int64 := do
  let n ← signed? text.toList
  if -9223372036854775808 ≤ n ∧ n < 9223372036854775808 then some (Int64.ofInt n) else none

/-- A time stamp of two integers: of 32 bits, which count as unsigned, or of 64 bits in the range of
32 unsigned bits. -/
def timestamp? (pairs : Document) : Option Bson := do
  let time ← Pairs.get? "t" pairs
  let increment ← Pairs.get? "i" pairs
  match time, increment with
  | .int32 t, .int32 i => some (.timestamp t.toUInt32 i.toUInt32)
  | .int64 t, .int64 i =>
    if 0 ≤ t.toInt ∧ t.toInt < 4294967296 ∧ 0 ≤ i.toInt ∧ i.toInt < 4294967296 then
      some (.timestamp (UInt32.ofNat t.toInt.toNat) (UInt32.ofNat i.toInt.toNat))
    else none
  | _, _ => none

/-- A regular expression; its options are put in order. -/
def regularExpression? (pairs : Document) : Option Bson := do
  let pattern ← (← Pairs.get? "pattern" pairs).string?
  let options ← (← Pairs.get? "options" pairs).string?
  let ordered := options.toList.mergeSort fun a b => a.toNat ≤ b.toNat
  return .regularExpression pattern (String.ofList ordered)

/-- Bytes in base 64 with the two digits of their kind, or else bytes of no particular kind with the
number of the kind that they are to have. -/
def binary? (pairs : Document) : Option Bson :=
  match (Pairs.get? "base64" pairs).bind Bson.string? with
  | some letters => do
    -- A text decides the form, even if it cannot be read.
    let bytes ← bytesOfBase64? letters.toList
    match ← bytesOfHex? (← (← Pairs.get? "subType" pairs).string?).toList with
    | [subtype] => some (.binary subtype bytes)
    | _ => none
  | none => do
    let bytes ← (← Pairs.get? "bytes" pairs).bytes?
    let subtype := (← (← Pairs.get? "subType" pairs).int32?).toInt
    if 0 ≤ subtype ∧ subtype < 256 then some (.binary (UInt8.ofNat subtype.toNat) bytes) else none

/-- A reference into a collection. -/
def dbPointer? (pairs : Document) : Option Bson := do
  let collection ← (← Pairs.get? "$ref" pairs).string?
  let id ← (← Pairs.get? "$id" pairs).objectId?
  return .dbPointer collection id

/-- A date in milliseconds or as text. -/
def date? : Bson → Option Bson
  | .int64 millis => some (.dateTime millis)
  | .string text => do
    let millis ← millisOfText? text
    return .dateTime (Int64.ofInt millis)
  | _ => none

/-- Whether a value is the integer one. -/
def isOne : Bson → Bool
  | .int32 n => n = 1
  | .int64 n => n = 1
  | _ => false

/-- The value that an object of one entry stands for. -/
def single? (name : String) (value : Bson) : Option Bson :=
  match name with
  | "$oid" => do return .objectId (← ObjectId.ofHex? (← value.string?).toList)
  | "$symbol" => value.string?.map .symbol
  | "$numberInt" => do return .int32 (← int32? (← value.string?))
  | "$numberLong" => do return .int64 (← int64? (← value.string?))
  | "$numberDouble" => do return .double (← Binary64.ofText? (← value.string?))
  | "$numberDecimal" => do return .decimal (← Decimal128.ofText? (← value.string?).toList)
  | "$numberDecimalBytes" => do return .decimal (← Decimal128.ofBytes? (← value.bytes?))
  | "$binary" => value.document?.bind binary?
  | "$code" => value.string?.map .code
  | "$timestamp" => value.document?.bind timestamp?
  | "$regularExpression" => value.document?.bind regularExpression?
  | "$dbPointer" => value.document?.bind dbPointer?
  | "$date" => date? value
  | "$minKey" => if isOne value then some .minKey else none
  | "$maxKey" => if isOne value then some .maxKey else none
  | "$undefined" => match value with
    | .boolean true => some .undefined
    | _ => none
  | _ => none

/-- Program text with its scope. -/
def scoped? (code scope : Bson) : Option Bson := do
  return .codeWithScope (← code.string?) (← scope.document?)

/-- The value that an object stands for, if it is not the object itself. -/
def read? : Document → Option Bson
  | [(name, value)] => single? name value
  | [(first, value), (second, other)] =>
    -- Only program text has two entries, and they may come in either order.
    if first = "$code" ∧ second = "$scope" then scoped? value other
    else if first = "$scope" ∧ second = "$code" then scoped? other value
    else none
  | _ => none

/-- The value that an object stands for. -/
def read (pairs : Document) : Bson :=
  (read? pairs).getD (.document pairs)

end KeyedStore.ExtendedJson
