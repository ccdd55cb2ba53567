import KeyedStore.Calendar.Reader
import KeyedStore.Json.Basic
import KeyedStore.NameMap
import KeyedStore.Number.Notation
import KeyedStore.Text.Quoted

/-!
# Shapes of entities

Reading the fields of an entity from a JSON object. A shape reads one value and refuses a value of
another kind; a record is a list of named shapes. A field may be absent if the record knows what
its absence means, and a pair that the record does not name is passed over.

Of several faults the first in the order of the object decides. Only when every pair that is there
can be read do missing fields count, in the order of the record.

## References

- SPEC_FULL.md, section 4.2, step 4 of loading: the text is parsed into the entity
  (`decode_structured`)
-/

namespace KeyedStore

/-- Why a JSON value cannot be read. -/
inductive DecodeFault where
  /-- A field that must be there is not. -/
  | missingField (name : String)
  /-- A value is of another kind than the one that is wanted. -/
  | wrongKind (found : Json) (wanted : String)
  /-- A whole number lies outside the range that is wanted. -/
  | outOfRange (number : Int) (wanted : String)
  /-- A text is not an instant. -/
  | badInstant
  /-- Containers are nested too deeply. -/
  | tooDeep
  /-- The text is not JSON. -/
  | notJson

/-- What the libraries say about a fault in words of their own. -/
structure FaultWords where
  /-- Why a text is not an instant. -/
  badInstant : String
  /-- Why a text is not JSON. -/
  notJson : String
  /-- Where in the text the fault is; it ends the wording of the fault. -/
  place : String
deriving Inhabited

namespace DecodeFault

/-- How a value is named in a fault. -/
def foundText : Json → String
  | .null => "null"
  | .bool value => "boolean `" ++ (if value then "true" else "false") ++ "`"
  | .whole n => "integer `" ++ Text.decimal n ++ "`"
  | .float x => "floating point `" ++ String.ofList x.text ++ "`"
  | .string value => "string " ++ Text.quoted value
  | .array _ => "sequence"
  | .object _ => "map"

/-- What a fault is, without its place. -/
def description (words : FaultWords) : DecodeFault → String
  | .missingField name => "missing field `" ++ name ++ "`"
  | .wrongKind found wanted => "invalid type: " ++ foundText found ++ ", expected " ++ wanted
  | .outOfRange n wanted =>
    "invalid value: integer `" ++ Text.decimal n ++ "`, expected " ++ wanted
  | .badInstant => words.badInstant
  | .tooDeep => "recursion limit exceeded"
  | .notJson => words.notJson

/-- The wording of a fault. -/
def message (words : FaultWords) (fault : DecodeFault) : String :=
  fault.description words ++ words.place

end DecodeFault

/-- A way to read a value. -/
abbrev Shape (α : Type) := Json → Except DecodeFault α

namespace Shape

variable {α : Type}

/-- A string. -/
def text : Shape String
  | .string value => .ok value
  | other => .error (.wrongKind other "a string")

/-- A truth value. -/
def flag : Shape Bool
  | .bool value => .ok value
  | other => .error (.wrongKind other "a boolean")

/-- A whole number of a range; a double is never one. -/
def wholeIn (least greatest : Int) (wanted : String) : Shape Int
  | .whole n => if least ≤ n ∧ n ≤ greatest then .ok n else .error (.outOfRange n wanted)
  | other => .error (.wrongKind other wanted)

/-- A signed integer of 64 bits. -/
def int64 : Shape Int64 := fun value =>
  (wholeIn (-9223372036854775808) 9223372036854775807 "i64" value).map Int64.ofInt

/-- A signed integer of 32 bits. -/
def int32 : Shape Int32 := fun value =>
  (wholeIn (-2147483648) 2147483647 "i32" value).map Int32.ofInt

/-- An unsigned integer of 8 bits. -/
def uint8 : Shape UInt8 := fun value =>
  (wholeIn 0 255 "u8" value).map fun n => UInt8.ofNat n.toNat

/-- An instant, as text. -/
def instant : Shape Instant
  | .string value =>
    match Instant.ofText? value with
    | some instant => .ok instant
    | none => .error .badInstant
  | other => .error (.wrongKind other "an RFC 3339 formatted date and time string")

/-- A value or null. -/
def optional (shape : Shape α) : Shape (Option α)
  | .null => .ok none
  | value => (shape value).map some

/-- A list of values of one shape. -/
def listOf (shape : Shape α) : Shape (List α)
  | .array items => items.mapM shape
  | other => .error (.wrongKind other "a sequence")

/-- The values of an object, all of one shape. -/
def pairsOf (shape : Shape α) : List (String × Json) → Except DecodeFault (List (String × α))
  | [] => .ok []
  | (name, value) :: pairs => do
    let first ← shape value
    let rest ← pairsOf shape pairs
    return (name, first) :: rest

/-- A map from names to values of one shape. -/
def mapOf (shape : Shape α) : Shape (NameMap α)
  | .object pairs => (pairsOf shape pairs).map NameMap.ofList
  | other => .error (.wrongKind other "a map")

/-- The fault of a value that cannot be read. -/
def fault? (shape : Shape α) (value : Json) : Option DecodeFault :=
  match shape value with
  | .ok _ => none
  | .error fault => some fault

end Shape

/-- A way to read an entity from the pairs of an object. -/
structure Record (α : Type) where
  /-- The named fields, each with the fault of a value that does not fit. -/
  checks : List (String × (Json → Option DecodeFault))
  /-- The entity of pairs that fit, or the first missing field. -/
  build : List (String × Json) → Except DecodeFault α

namespace Record

variable {α β : Type}

/-- The record without fields. -/
def of (value : α) : Record α :=
  ⟨[], fun _ => .ok value⟩

/-- A record with one more field; `absent` is the value of a field that is not there. -/
def field (record : Record (α → β)) (name : String) (shape : Shape α) (absent : Option α) :
    Record β where
  checks := record.checks ++ [(name, shape.fault?)]
  build pairs := do
    let partly ← record.build pairs
    -- A value that is there counts; the default is only for one that is not.
    match Pairs.get? name pairs, absent with
    | some value, _ => (shape value).map partly
    | none, some value => .ok (partly value)
    | none, none => .error (.missingField name)

/-- A record with one more field that must be there. -/
def required (record : Record (α → β)) (name : String) (shape : Shape α) : Record β :=
  record.field name shape none

/-- A record with one more field that may be null or absent. -/
def optional (record : Record (Option α → β)) (name : String) (shape : Shape α) : Record β :=
  record.field name shape.optional (some none)

/-- A record with one more field that has a value of its own when it is absent. -/
def withDefault (record : Record (α → β)) (name : String) (shape : Shape α) (value : α) :
    Record β :=
  record.field name shape (some value)

/-- The first fault among the pairs that the record names. -/
def firstFault (record : Record α) : List (String × Json) → Option DecodeFault
  | [] => none
  | (name, value) :: pairs =>
    -- A pair that the record does not name has no check and cannot fail.
    match (Pairs.get? name record.checks).bind (· value) with
    | some fault => some fault
    | none => record.firstFault pairs

/-- Read an entity. -/
def read (record : Record α) : Shape α
  | .object pairs =>
    match record.firstFault pairs with
    | some fault => .error fault
    | none => record.build pairs
  | other => .error (.wrongKind other "a map")

end Record

end KeyedStore
