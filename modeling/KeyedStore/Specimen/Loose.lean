import KeyedStore.Entity.Kind

/-!
# Loose entities

Entities whose payload is any JSON value, with a key beside it. They come with declarations of all
sorts, many of which break a rule about names.

## References

- SPEC_FULL.md, section 10.2: entities of any payload under any declaration
-/

namespace KeyedStore

/-- An entity of any payload. -/
structure Loose where
  /-- The key, if the entity has one. -/
  key : Option String
  /-- The payload. -/
  payload : Json

namespace Loose

/-- The deepest nesting that is read. -/
def maxDepth : Nat := 127

/-- The string under a name. -/
def stringAt (name : String) (pairs : List (String × Json)) : Option String :=
  match Pairs.get? name pairs with
  | some (.string value) => some value
  | _ => none

/-- Read an entity of any payload; its key is the string in the key field. -/
def read (keyField : String) (value : Json) : Except DecodeFault Loose :=
  -- The nesting is refused before the value is looked at.
  if maxDepth < value.depth then .error .tooDeep
  else
    match value with
    | .object pairs => .ok ⟨stringAt keyField pairs, value⟩
    | other => .ok ⟨none, other⟩

/-- Loose entities of a declaration as a kind of entities. -/
def kind (declaration : Declaration) : StructuredKind Loose where
  declaration := declaration
  key entity := entity.key
  payload entity := .ok entity.payload
  read := read declaration.keyField

/-- The declarations of loose entities: the name of the type, the collection and the key field. -/
def table : List (String × String × String) := [
  ("Loose", "loose", "key"),
  ("LooseId", "loose_ids", "_id"),
  ("LooseUnicode", "컬렉션", "열쇠"),
  ("EmptyCollection", "", "id"),
  ("BlankCollection", " \t\n", "id"),
  ("WideBlankCollection", "\u3000\u00a0", "id"),
  ("DollarCollection", "bad$name", "id"),
  ("LeadingDollarCollection", "$cmd", "id"),
  ("NulCollection", "nul\x00name", "id"),
  ("ReservedCollection", "system.users", "id"),
  ("BareReservedCollection", "system.", "id"),
  ("ReservedDollarCollection", "system.a$b", "id"),
  ("SystemCollection", "system", "id"),
  ("UpperSystemCollection", "System.users", "id"),
  ("PaddedSystemCollection", " system.users", "id"),
  ("InnerSystemCollection", "my.system.users", "id"),
  ("PaddedCollection", " padded ", "id"),
  ("DottedCollection", "a.b..c", "id"),
  ("EmptyKey", "missing_key", ""),
  ("BlankKey", "blank_key", " \r\n"),
  ("DollarKey", "dollar_key", "$id"),
  ("InnerDollarKey", "inner_dollar_key", "i$d"),
  ("DottedKey", "dotted", "profile.id"),
  ("DotKey", "dot", "."),
  ("DollarDotKey", "dollar_dot", "$a.b"),
  ("NulKey", "nul_key", "i\x00d"),
  ("PaddedKey", "padded_key", " id "),
  ("PaddedDollarKey", "padded_dollar_key", " $id"),
  ("BothBad", "", ""),
  ("DollarAndBadKey", "a$", "b.c")]

/-- The declarations of loose entities. -/
def declarations : List Declaration :=
  table.map fun (name, collection, keyField) => ⟨"specimen::" ++ name, collection, keyField⟩

end Loose

end KeyedStore
