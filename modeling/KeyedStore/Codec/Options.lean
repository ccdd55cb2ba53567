import KeyedStore.Bson.Value

/-!
# The terms of the codec

The two choices that a codec leaves open, and what an entity is turned into.

## References

- SPEC_FULL.md, section 10.4: `CodecOptions`, `EncodedDocument`
-/

namespace KeyedStore

/-- The choices of a codec. -/
structure CodecOptions where
  /-- Whether fields that are null are left out of documents. -/
  omitNullFields : Bool := true
  /-- How many characters of a document an error may quote. -/
  diagnosticLimit : Nat := 500
deriving DecidableEq

/-- The usual choices are the default ones. -/
instance : Inhabited CodecOptions := ⟨{}⟩

/-- An entity ready to be kept. -/
structure Encoded where
  /-- The collection that keeps it. -/
  collection : String
  /-- Its key. -/
  key : String
  /-- Its document. -/
  document : Document

/-- The name of the field that identifies a document in its collection. -/
def identityField : String := "_id"

/-- The name of the field that holds the bytes of a binary entity. -/
def dataField : String := "data"

end KeyedStore
