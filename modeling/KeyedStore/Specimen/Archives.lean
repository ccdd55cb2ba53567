import KeyedStore.Entity.Kind

/-!
# Specimens of binary entities

An archive that can fail in every way: its bytes may not be readable, it may state any size, and
some bytes are no archive at all.

## References

- SPEC_FULL.md, section 10.2: binary entities whose `open`, `load` and `size_in_bytes` misbehave
-/

namespace KeyedStore

/-- An archive that can fail in every way. -/
structure FaultyArchive where
  /-- The key, if the archive has one. -/
  key : Option String
  /-- The bytes. -/
  data : List UInt8
  /-- Why the bytes cannot be read to their end, if they cannot. -/
  readError : Option String
  /-- The size that is stated, if it is not the true one. -/
  statedSize : Option UInt64

namespace FaultyArchive

/-- The size that the archive says it has. -/
def size (archive : FaultyArchive) : UInt64 :=
  archive.statedSize.getD (UInt64.ofNat archive.data.length)

/-- Faulty archives as a kind of entities. They do not keep the key they are loaded with. -/
def kind : BinaryKind FaultyArchive where
  declaration := ⟨"specimen::FaultyBinary", "faulty_archives", "key"⟩
  key archive := archive.key
  size archive := archive.size
  stream archive :=
    match archive.readError with
    | some detail => .error detail
    | none => .ok archive.data
  load bytes :=
    if bytes.head? = some 0xFF then .error "corrupt archive" else .ok ⟨none, bytes, none, none⟩
  restoreKey _ archive := archive

end FaultyArchive

/-- Bytes that are declared to belong to a collection of the system. -/
structure ReservedArchive where
  /-- The bytes. -/
  data : List UInt8

/-- Reserved archives as a kind of entities. -/
def ReservedArchive.kind : BinaryKind ReservedArchive where
  declaration := ⟨"specimen::ReservedBinary", "system.worlds", "key"⟩
  key _ := some "k"
  size archive := UInt64.ofNat archive.data.length
  stream archive := .ok archive.data
  load bytes := .ok ⟨bytes⟩
  restoreKey _ archive := archive

end KeyedStore
