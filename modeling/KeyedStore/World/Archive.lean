import KeyedStore.Entity.Kind

/-!
# World archives

The bytes of a packed world. The key of an archive is made of the bucket that holds the world and
the name of the world.

## References

- SPEC_FULL.md, section 10.7: `WorldBinaryData` with `key_for`, `open`, `load`, `size_in_bytes`,
  `restore_key`
-/

namespace KeyedStore

/-- A packed world. -/
structure WorldArchive where
  /-- The key. -/
  key : String
  /-- The bytes. -/
  data : List UInt8

namespace WorldArchive

/-- The key of a world in a bucket. -/
def keyFor (bucket worldId : String) : String :=
  bucket ++ ":" ++ worldId

/-- The archive of a world in a bucket. -/
def of (bucket worldId : String) (data : List UInt8) : WorldArchive :=
  ⟨keyFor bucket worldId, data⟩

/-- World archives as a kind of entities. -/
def kind : BinaryKind WorldArchive where
  declaration := ⟨"world::WorldBinaryData", "worlds", "key"⟩
  key archive := some archive.key
  size archive := UInt64.ofNat archive.data.length
  stream archive := .ok archive.data
  load bytes := .ok ⟨"", bytes⟩
  restoreKey key archive := { archive with key }

end WorldArchive

end KeyedStore
