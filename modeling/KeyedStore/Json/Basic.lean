import KeyedStore.Number.Binary64

/-!
# JSON values

Trees of JSON. Whole numbers and doubles are kept apart, as their texts are: a whole number has
neither a point nor an exponent. The pairs of an object keep the order in which they are written.

## References

- SPEC_FULL.md, section 4.2, the generic payload of an entity
-/

namespace KeyedStore

/-- A JSON value. -/
inductive Json where
  /-- The null value. -/
  | null
  /-- A truth value. -/
  | bool (value : Bool)
  /-- A whole number. -/
  | whole (value : Int)
  /-- A finite double. -/
  | float (value : Binary64)
  /-- A string. -/
  | string (value : String)
  /-- A list of values. -/
  | array (items : List Json)
  /-- Named values in order. -/
  | object (pairs : List (String × Json))

namespace Json

/-- The null value is the default one. -/
instance : Inhabited Json := ⟨.null⟩

/-- Whether a value is null. -/
def isNull : Json → Bool
  | .null => true
  | _ => false

/-- The name of a kind of value. -/
def kind : Json → String
  | .null => "null"
  | .bool _ => "boolean"
  | .whole _ | .float _ => "number"
  | .string _ => "string"
  | .array _ => "array"
  | .object _ => "object"

mutual

/-- The number of containers around the innermost value. -/
def depth : Json → Nat
  | .array items => depthOfItems items + 1
  | .object pairs => depthOfPairs pairs + 1
  | _ => 0

/-- The greatest depth among the items of a list. -/
def depthOfItems : List Json → Nat
  | [] => 0
  | item :: items => max (depth item) (depthOfItems items)

/-- The greatest depth among the values of an object. -/
def depthOfPairs : List (String × Json) → Nat
  | [] => 0
  | (_, value) :: pairs => max (depth value) (depthOfPairs pairs)

end

end Json

end KeyedStore
