import KeyedStore.Codec.Structured

/-!
# The codec of binary entities

The document of a binary entity holds its key and its bytes and nothing else. Documents of other
writers may hold the bytes as a list of integers.

## References

- SPEC_FULL.md, section 4.2, the binary variant; section 10.4: `encode_binary`, `decode_binary`,
  `require_key`, `bytes_from_array`
-/

namespace KeyedStore.Codec

/-- The most bytes that an address can span. -/
def maxReservation : Nat := 9223372036854775807

/-- What cuts the program short when it reserves space for `size` bytes and memory grants no more
than `granted` at once. -/
def reservationAbort? (granted size : Nat) : Option Abort :=
  -- Whether there is such an address is known before memory is asked.
  if maxReservation < size then some .capacityOverflow
  else if granted < size then some (.allocationRefused size)
  else none

/-- The byte that an integer stands for. -/
def byteOf? : Bson → Option UInt8
  | .int32 n => if 0 ≤ n.toInt ∧ n.toInt ≤ 255 then some (UInt8.ofNat n.toInt.toNat) else none
  | .int64 n => if 0 ≤ n.toInt ∧ n.toInt ≤ 255 then some (UInt8.ofNat n.toInt.toNat) else none
  | _ => none

/-- The bytes of a list of integers. -/
def bytesOfItems? (items : List Bson) : Option (List UInt8) :=
  items.mapM byteOf?

/-- The bytes in the document of a binary entity. -/
def dataOf (metadata : Metadata) (document : Document) (key : String) :
    Except StoreError (List UInt8) :=
  match Pairs.get? dataField document with
  | some (.binary _ bytes) => .ok bytes
  | some (.array items) =>
    match bytesOfItems? items with
    | some bytes => .ok bytes
    | none => .error (.notByteArray metadata.collection key)
  | some other => .error (.notBinary metadata.collection key other.typeName)
  | none => .error (.noData metadata.collection key)

variable {α : Type}

/-- Turn a binary entity into a document. Space for as many bytes as the entity says it has is
reserved before any of them is read; memory grants no more than `granted` at once. The bytes that
are read then are taken to have room. -/
def encodeBinary (granted : Nat) (kind : BinaryKind α) (entity : α) : Outcome Encoded :=
  match kind.declaration.resolve with
  | .error error => .failed error
  | .ok metadata =>
    match requireKey metadata (kind.key entity) with
    | .error error => .failed error
    | .ok key =>
      -- The size is believed before the stream is opened.
      match reservationAbort? granted (kind.size entity).toNat with
      | some cause => .aborted cause
      | none =>
        match kind.stream entity with
        | .error detail => .failed (.brokenStream detail)
        | .ok bytes =>
          .done ⟨metadata.collection, key,
            [(identityField, .string key), (dataField, .binary 0 bytes)]⟩

/-- Turn a document back into a binary entity. -/
def decodeBinary (kind : BinaryKind α) (document : Document) (key : String) :
    Except StoreError α := do
  let metadata ← kind.declaration.resolve
  let bytes ← dataOf metadata document key
  match kind.load bytes with
  | .ok entity => .ok (kind.restoreKey key entity)
  | .error detail => .error (.brokenStream detail)

end KeyedStore.Codec
