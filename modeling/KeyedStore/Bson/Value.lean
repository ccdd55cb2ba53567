import KeyedStore.Number.Binary64
import KeyedStore.Number.Decimal128
import KeyedStore.Pairs
import KeyedStore.Text.Hex

/-!
# BSON values

The values that a document can hold. A document is a list of named values in order; whoever builds
one writes each name once.

## References

- SPEC_FULL.md, section 3, Document; section 10.4, the stored values that are named there
-/

namespace KeyedStore

/-- An identifier of twelve bytes. -/
structure ObjectId where
  /-- The bytes, as one number. -/
  value : BitVec 96
deriving DecidableEq

namespace ObjectId

/-- The twenty-four digits of an identifier. -/
def hex (id : ObjectId) : List Char :=
  let digits := Text.hexDigits id.value.toNat
  List.replicate (24 - digits.length) '0' ++ digits

/-- Read an identifier of exactly twenty-four digits. -/
def ofHex? (chars : List Char) : Option ObjectId := do
  if chars.length ≠ 24 then none
  let values ← chars.mapM Text.hexValue?
  return ⟨BitVec.ofNat 96 (values.foldl (fun value digit => 16 * value + digit) 0)⟩

end ObjectId

/-- A BSON value. -/
inductive Bson where
  /-- A double. -/
  | double (value : Binary64)
  /-- A string. -/
  | string (value : String)
  /-- A list of values. -/
  | array (items : List Bson)
  /-- Named values in order. -/
  | document (pairs : List (String × Bson))
  /-- A truth value. -/
  | boolean (value : Bool)
  /-- The null value. -/
  | null
  /-- A regular expression with the letters of its options. -/
  | regularExpression (pattern options : String)
  /-- A piece of program text. -/
  | code (source : String)
  /-- A piece of program text with the values of its variables. -/
  | codeWithScope (source : String) (scope : List (String × Bson))
  /-- An integer of 32 bits. -/
  | int32 (value : Int32)
  /-- An integer of 64 bits. -/
  | int64 (value : Int64)
  /-- A time in seconds and a counter within the second. -/
  | timestamp (time increment : UInt32)
  /-- Bytes with the number of their kind. -/
  | binary (subtype : UInt8) (bytes : List UInt8)
  /-- An identifier. -/
  | objectId (id : ObjectId)
  /-- An instant in milliseconds since the beginning of 1970. -/
  | dateTime (millis : Int64)
  /-- A symbol. -/
  | symbol (value : String)
  /-- A decimal. -/
  | decimal (value : Decimal128)
  /-- The undefined value. -/
  | undefined
  /-- The value above all others. -/
  | maxKey
  /-- The value below all others. -/
  | minKey
  /-- A reference into a collection. -/
  | dbPointer (collection : String) (id : ObjectId)

/-- A document: named values in order. -/
abbrev Document := List (String × Bson)

namespace Bson

/-- The null value is the default one. -/
instance : Inhabited Bson := ⟨.null⟩

/-- The name of the type of a value. -/
def typeName : Bson → String
  | .double _ => "Double"
  | .string _ => "String"
  | .array _ => "Array"
  | .document _ => "EmbeddedDocument"
  | .boolean _ => "Boolean"
  | .null => "Null"
  | .regularExpression _ _ => "RegularExpression"
  | .code _ => "JavaScriptCode"
  | .codeWithScope _ _ => "JavaScriptCodeWithScope"
  | .int32 _ => "Int32"
  | .int64 _ => "Int64"
  | .timestamp _ _ => "Timestamp"
  | .binary _ _ => "Binary"
  | .objectId _ => "ObjectId"
  | .dateTime _ => "DateTime"
  | .symbol _ => "Symbol"
  | .decimal _ => "Decimal128"
  | .undefined => "Undefined"
  | .maxKey => "MaxKey"
  | .minKey => "MinKey"
  | .dbPointer _ _ => "DbPointer"

/-- The text of a string. -/
def string? : Bson → Option String
  | .string value => some value
  | _ => none

/-- The pairs of a document. -/
def document? : Bson → Option Document
  | .document pairs => some pairs
  | _ => none

/-- The integer of 32 bits. -/
def int32? : Bson → Option Int32
  | .int32 value => some value
  | _ => none

/-- The integer of 64 bits. -/
def int64? : Bson → Option Int64
  | .int64 value => some value
  | _ => none

/-- The bytes of no particular kind. -/
def bytes? : Bson → Option (List UInt8)
  | .binary 0 bytes => some bytes
  | _ => none

/-- The identifier. -/
def objectId? : Bson → Option ObjectId
  | .objectId id => some id
  | _ => none

end Bson

end KeyedStore
