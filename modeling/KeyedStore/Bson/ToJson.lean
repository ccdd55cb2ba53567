import KeyedStore.Bson.Value
import KeyedStore.Calendar.Timestamp
import KeyedStore.Json.Basic
import KeyedStore.Number.Decimal128
import KeyedStore.Text.Base64

/-!
# From BSON to JSON

The JSON value that a reader of entities is shown for a BSON value. Instants become texts to the
millisecond, whatever their form in the document; a value that JSON cannot show becomes null.

## References

- SPEC_FULL.md, section 10.4, from stored values to JSON: `document_to_json`, `bson_to_json`,
  `format_instant_millis`
-/

namespace KeyedStore.Bson

/-- An instant as text, or as a number if it lies outside the range of instants. -/
def instantJson (millis : Int) : Json :=
  match timestampOfMillis? millis with
  | some text => .string text
  | none => .whole millis

mutual

/-- The JSON value of a BSON value. -/
def toJson : Bson → Json
  | .double x => if x.isFinite then .float x else .null
  | .string value => .string value
  | .array items => .array (itemsToJson items)
  | .document pairs => .object (pairsToJson pairs)
  | .boolean value => .bool value
  | .null => .null
  | .regularExpression pattern options => .string ("/" ++ pattern ++ "/" ++ options)
  | .code source => .string source
  | .codeWithScope source _ => .string source
  | .int32 n => .whole n.toInt
  | .int64 n => .whole n.toInt
  | .timestamp time _ => instantJson (time.toNat * 1000)
  | .binary _ bytes => .string (String.ofList (Text.base64OfBytes bytes))
  | .objectId id => .string (String.ofList id.hex)
  | .dateTime millis => instantJson millis.toInt
  | .symbol value => .string value
  | .decimal x => .string (String.ofList x.text)
  | .undefined => .null
  | .maxKey => .null
  | .minKey => .null
  | .dbPointer _ _ => .null

/-- The JSON values of a list. -/
def itemsToJson : List Bson → List Json
  | [] => []
  | item :: items => toJson item :: itemsToJson items

/-- The JSON values of a document, under their names. -/
def pairsToJson : List (String × Bson) → List (String × Json)
  | [] => []
  | (name, value) :: pairs => (name, toJson value) :: pairsToJson pairs

end

end KeyedStore.Bson

namespace KeyedStore

/-- The JSON object of a document. -/
def Document.toJson (document : Document) : Json :=
  .object (Bson.pairsToJson document)

end KeyedStore
