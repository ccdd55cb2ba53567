import KeyedStore.Bson.ExtendedJson
import KeyedStore.Json.Basic

/-!
# From JSON to BSON

The BSON value of a JSON value. Whole numbers become integers of 64 bits, and one that needs more
has no BSON value. Objects are read as extended JSON from the inside out.

## References

- SPEC_FULL.md, section 4.2, step 3 of storing: the payload as a document (`encode_structured`)
-/

namespace KeyedStore

/-- Why a JSON value has no BSON document. -/
inductive BsonFault where
  /-- A whole number does not fit a signed integer of 64 bits. -/
  | tooLarge (number : Int)
  /-- The whole object stands for a value that is not a document. -/
  | notDocument (found : Bson)

namespace Bson

mutual

/-- The BSON value of a JSON value. -/
def ofJson : Json → Except BsonFault Bson
  | .null => .ok .null
  | .bool value => .ok (.boolean value)
  | .whole n =>
    if -9223372036854775808 ≤ n ∧ n < 9223372036854775808 then .ok (.int64 (Int64.ofInt n))
    else .error (.tooLarge n)
  | .float x => .ok (.double x)
  | .string value => .ok (.string value)
  | .array items => (ofItems items).map .array
  | .object pairs => (ofPairs pairs).map ExtendedJson.read

/-- The BSON values of a list. -/
def ofItems : List Json → Except BsonFault (List Bson)
  | [] => .ok []
  | item :: items => do
    let first ← ofJson item
    let rest ← ofItems items
    return first :: rest

/-- The BSON values of an object, under their names. -/
def ofPairs : List (String × Json) → Except BsonFault Document
  | [] => .ok []
  | (name, value) :: pairs => do
    let first ← ofJson value
    let rest ← ofPairs pairs
    return (name, first) :: rest

end

end Bson

/-- The document of the pairs of an object. -/
def Document.ofPairs (pairs : List (String × Json)) : Except BsonFault Document := do
  -- The outermost object is read as extended JSON like every other one.
  match ExtendedJson.read (← Bson.ofPairs pairs) with
  | .document pairs => return pairs
  | other => throw (.notDocument other)

/-- The wording of a fault. -/
def BsonFault.message : BsonFault → String
  | .tooLarge n =>
    "BSON does not support unsigned integers.\n                 An attempt to serialize the value: "
      ++ Text.decimal n ++ " in a signed type failed due to the value's size."
  | .notDocument found =>
    "Could not be serialized to Document, got " ++ found.typeName ++ " instead"

end KeyedStore
