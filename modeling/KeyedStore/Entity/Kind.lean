import KeyedStore.Entity.Declaration

/-!
# Kinds of entities

What the store has to know of a type in order to keep its values. A structured kind turns a value
into JSON and reads it back; a binary kind is a stream of bytes with a key of its own.

## References

- SPEC_FULL.md, section 6, the contract of entities; section 10.2: `StorableStructuredData`,
  `StorableBinaryData`
-/

namespace KeyedStore

/-- A type of entities that are kept field by field. -/
structure StructuredKind (α : Type) where
  /-- Where the entities are kept. -/
  declaration : Declaration
  /-- The key of an entity, if it has one. -/
  key : α → Option String
  /-- The fields of an entity, as an object, or why they cannot be written. -/
  payload : α → Except String Json
  /-- Read an entity from its fields. -/
  read : Shape α

/-- A type of entities that are kept as one piece of bytes. -/
structure BinaryKind (α : Type) where
  /-- Where the entities are kept. -/
  declaration : Declaration
  /-- The key of an entity, if it has one. -/
  key : α → Option String
  /-- The number of bytes that an entity says it has. -/
  size : α → UInt64
  /-- The bytes of an entity, or why they cannot be read. -/
  stream : α → Except String (List UInt8)
  /-- The entity of some bytes, or why there is none. -/
  load : List UInt8 → Except String α
  /-- Give an entity that has been loaded its key. -/
  restoreKey : String → α → α

end KeyedStore
