import KeyedStore.StoreError
import KeyedStore.Text.Basic

/-!
# Declarations

What a type of entities says about its storage: the collection that holds its documents and the
field that holds the key. `Declaration.resolve` checks the two names; a declaration that breaks a
rule is a configuration error, the collection being checked before the key field.

## References

- SPEC_FULL.md, section 4.1 and section 10.3, the rules for names: `describe`,
  `validate_collection_name`, `validate_key_field`, `short_type_name`
-/

namespace KeyedStore

/-- What follows the last double colon before the first bracket, or `kept` if there is none. -/
def lastSegment (kept : List Char) : List Char → List Char
  | [] => kept
  | c :: rest =>
    if c = '<' then kept
    -- A double colon begins a new segment right behind it.
    else if c = ':' ∧ rest.head? = some ':' then lastSegment (rest.drop 1) rest
    else lastSegment kept rest

/-- The name of a type without the path before it. Paths inside brackets stay. -/
def shortTypeName (path : String) : String :=
  String.ofList (lastSegment path.toList path.toList)

/-- What a type of entities says about its storage. -/
structure Declaration where
  /-- The name of the type with its path. -/
  path : String
  /-- The name of the collection. -/
  collection : String
  /-- The name of the key field in the payload. -/
  keyField : String
deriving DecidableEq

/-- The checked description of a type of entities. -/
structure Metadata where
  /-- The short name of the type. -/
  typeName : String
  /-- The name of the collection. -/
  collection : String
  /-- The name of the key field in the payload. -/
  keyField : String
deriving DecidableEq

namespace Declaration

/-- The short name of the type. -/
def typeName (declaration : Declaration) : String :=
  shortTypeName declaration.path

/-- Check the name of a collection. -/
def checkCollection (typeName collection : String) : Except StoreError Unit :=
  if Text.allBlank collection then .error (.emptyCollection typeName)
  else if '$' ∈ collection.toList ∨ '\x00' ∈ collection.toList then
    .error (.invalidCollection typeName collection)
  else if "system.".toList.isPrefixOf collection.toList then
    .error (.reservedCollection typeName collection)
  else .ok ()

/-- Check the name of a key field. -/
def checkKeyField (typeName field : String) : Except StoreError Unit :=
  if Text.allBlank field then .error (.noKeyField typeName)
  else if field.toList.head? = some '$' ∨ '.' ∈ field.toList then
    .error (.invalidKeyField typeName field)
  else .ok ()

/-- Check a declaration. -/
def check (declaration : Declaration) : Except StoreError Unit := do
  checkCollection declaration.typeName declaration.collection
  checkKeyField declaration.typeName declaration.keyField

/-- The description of a type whose declaration keeps the rules. -/
def resolve (declaration : Declaration) : Except StoreError Metadata := do
  declaration.check
  return ⟨declaration.typeName, declaration.collection, declaration.keyField⟩

end Declaration

end KeyedStore
