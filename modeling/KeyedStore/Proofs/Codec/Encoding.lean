import KeyedStore.Codec.Binary
import Mathlib.Tactic.SplitIfs

/-!
# When an entity has a document

The encoders check the declaration first, then the key, then the fields or the bytes. Each lemma
here takes one of these checks apart: what is known when it has passed, and of which kind its
errors are.

- `exists_of_bind_eq_ok`, `error_of_bind_eq_error`: two steps, one after the other;
- `isConfiguration_of_resolve`, `requireKey_cases`: a declaration or a key that is refused is a
  configuration error;
- `prepare_eq_ok`, `finish_eq_ok`, `encode_eq_ok`: what an encoded structured entity has passed;
- `encodeBinary_of_abort`, `encodeBinary_of_reservable`: of a binary entity with a key the stated
  size decides before the bytes;
- `reservationAbort?_eq_none_iff`: which sizes space can be reserved for;
- `encodeBinary_eq_done`: what an encoded binary entity has passed.

## References

- SPEC_FULL.md, section 4.2, steps 1 to 4 of storing
-/

namespace KeyedStore

section Bind

variable {ε α β : Type} {first : Except ε α} {next : α → Except ε β}

/-- If two steps have a value, the first one has. -/
theorem exists_of_bind_eq_ok {result : β} (h : first >>= next = .ok result) :
    ∃ value, first = .ok value ∧ next value = .ok result := by
  cases first with
  | error error => exact absurd h (by simp [bind, Except.bind])
  | ok value => exact ⟨value, rfl, h⟩

/-- If two steps fail, one of them does. -/
theorem error_of_bind_eq_error {error : ε} (h : first >>= next = .error error) :
    first = .error error ∨ ∃ value, next value = .error error := by
  cases first with
  | error other => exact .inl (congrArg Except.error (Except.error.inj h))
  | ok value => exact .inr ⟨value, h⟩

end Bind

namespace Declaration

/-- A description holds the names of its declaration. -/
theorem eq_of_resolve {declaration : Declaration} {metadata : Metadata}
    (h : declaration.resolve = .ok metadata) :
    metadata = ⟨declaration.typeName, declaration.collection, declaration.keyField⟩ := by
  unfold resolve at h
  obtain ⟨-, -, h⟩ := exists_of_bind_eq_ok h
  exact (Except.ok.inj h).symm

/-- A description has the key field of the declaration. -/
theorem keyField_of_resolve {declaration : Declaration} {metadata : Metadata}
    (h : declaration.resolve = .ok metadata) : metadata.keyField = declaration.keyField :=
  congrArg Metadata.keyField (eq_of_resolve h)

/-- A declaration is refused for a rule that it breaks. -/
theorem resolve_eq_error_iff {declaration : Declaration} {error : StoreError} :
    declaration.resolve = .error error ↔ declaration.check = .error error := by
  rw [resolve]
  cases declaration.check with
  | error other => simp [bind, Except.bind]
  | ok _ => simp [bind, Except.bind, pure, Except.pure]

/-- A collection of a wrong name is a configuration error. -/
theorem isConfiguration_of_checkCollection {typeName collection : String} {error : StoreError}
    (h : checkCollection typeName collection = .error error) : error.isConfiguration = true := by
  unfold checkCollection at h
  split_ifs at h
  all_goals
    rw [← Except.error.inj h]
    rfl

/-- A key field of a wrong name is a configuration error. -/
theorem isConfiguration_of_checkKeyField {typeName field : String} {error : StoreError}
    (h : checkKeyField typeName field = .error error) : error.isConfiguration = true := by
  unfold checkKeyField at h
  split_ifs at h
  all_goals
    rw [← Except.error.inj h]
    rfl

/-- A declaration is refused with a configuration error. -/
theorem isConfiguration_of_resolve {declaration : Declaration} {error : StoreError}
    (h : declaration.resolve = .error error) : error.isConfiguration = true := by
  unfold resolve check at h
  rcases error_of_bind_eq_error h with hcheck | ⟨_, hdone⟩
  · rcases error_of_bind_eq_error hcheck with hcollection | ⟨_, hkeyField⟩
    · exact isConfiguration_of_checkCollection hcollection
    · exact isConfiguration_of_checkKeyField hkeyField
  · exact absurd hdone (by simp [pure, Except.pure])

end Declaration

namespace Codec

/-- A key is refused with a configuration error, or it is there and not empty. -/
theorem requireKey_cases (metadata : Metadata) (key : Option String) :
    (∃ error, requireKey metadata key = .error error ∧ error.isConfiguration = true) ∨
      ∃ text, key = some text ∧ text ≠ "" ∧ requireKey metadata key = .ok text := by
  cases key with
  | none => exact .inl ⟨_, rfl, rfl⟩
  | some text =>
    by_cases h : text = ""
    · exact .inl ⟨_, if_pos h, rfl⟩
    · exact .inr ⟨text, rfl, h, if_neg h⟩

/-- A payload whose pairs are taken has been written, as an object. -/
theorem requireObject_eq_ok {metadata : Metadata} {payload : Except String Json}
    {fields : List (String × Json)} (h : requireObject metadata payload = .ok fields) :
    payload = .ok (.object fields) := by
  unfold requireObject at h
  split at h
  · rw [Except.ok.inj h]
  · exact absurd h (by simp)
  · exact absurd h (by simp)

/-- A payload that is no object, or cannot be written at all, is refused with a serialization error
that is about no field. -/
theorem requireObject_of_ne (metadata : Metadata) {payload : Except String Json}
    (h : ∀ fields, payload ≠ .ok (.object fields)) :
    ∃ error : StoreError, requireObject metadata payload = .error error ∧
      error.kind = .serialization ∧ ∀ fault, error ≠ .unstorable fault := by
  unfold requireObject
  split
  · rename_i fields
    exact absurd rfl (h fields)
  · exact ⟨_, rfl, rfl, by simp⟩
  · exact ⟨_, rfl, rfl, by simp⟩

variable {α : Type}

/-- What is known of a structured entity that has been prepared. -/
theorem prepare_eq_ok {kind : StructuredKind α} {options : CodecOptions} {entity : α}
    {prepared : Prepared} (h : prepare kind options entity = .ok prepared) :
    kind.declaration.resolve = .ok prepared.metadata ∧
      requireKey prepared.metadata (kind.key entity) = .ok prepared.key ∧
      ∃ fields, kind.payload entity = .ok (.object fields) ∧
        withoutKey prepared.metadata (keptFields options fields) = .ok prepared.fields := by
  unfold prepare at h
  obtain ⟨metadata, hresolve, h⟩ := exists_of_bind_eq_ok h
  obtain ⟨key, hkey, h⟩ := exists_of_bind_eq_ok h
  obtain ⟨fields, hfields, h⟩ := exists_of_bind_eq_ok h
  obtain ⟨rest, hrest, h⟩ := exists_of_bind_eq_ok h
  obtain rfl := Except.ok.inj h
  refine ⟨hresolve, hkey, fields, ?_, hrest⟩
  exact requireObject_eq_ok hfields

/-- The document of a prepared entity is put together from its fields and its key. -/
theorem finish_eq_ok {prepared : Prepared} {encoded : Encoded} (h : finish prepared = .ok encoded) :
    ∃ payload, Document.ofPairs (withoutIdentity prepared.metadata prepared.fields) = .ok payload ∧
      encoded =
        ⟨prepared.metadata.collection, prepared.key, assemble prepared.key payload⟩ := by
  unfold finish at h
  split at h
  · exact absurd h (by simp)
  · rename_i payload hpayload
    exact ⟨payload, hpayload, (Except.ok.inj h).symm⟩

/-- A structured entity that is encoded has been prepared and finished. -/
theorem encode_eq_ok {kind : StructuredKind α} {options : CodecOptions} {entity : α}
    {encoded : Encoded} (h : (encode kind options entity).value = .ok encoded) :
    ∃ prepared, prepare kind options entity = .ok prepared ∧ finish prepared = .ok encoded := by
  unfold encode at h
  split at h
  · exact absurd h (by simp)
  · rename_i prepared hprepared
    exact ⟨prepared, hprepared, h⟩

/-- The document of some bytes under a key, or why they cannot be read. -/
def encodeStream (metadata : Metadata) (key : String) :
    Except String (List UInt8) → Outcome Encoded
  | .error detail => .failed (.brokenStream detail)
  | .ok bytes =>
    .done ⟨metadata.collection, key, [(identityField, .string key), (dataField, .binary 0 bytes)]⟩

/-- Space for `size` bytes can be reserved where memory grants no more than `granted` at once. -/
def Reservable (granted size : Nat) : Prop :=
  size ≤ maxReservation ∧ size ≤ granted

/-- A reservation does not cut the program short exactly if there can be such a space and memory
grants it. -/
theorem reservationAbort?_eq_none_iff {granted size : Nat} :
    reservationAbort? granted size = none ↔ Reservable granted size := by
  rw [reservationAbort?, Reservable]
  split_ifs with hspan hgrant
  · simp [Nat.not_le.mpr hspan]
  · simp [Nat.not_le.mpr hgrant]
  · simp [Nat.not_lt.mp hspan, Nat.not_lt.mp hgrant]

section Binary

variable {granted : Nat} {kind : BinaryKind α} {entity : α} {metadata : Metadata} {key : String}
  {error : StoreError}

/-- A binary entity of a type that is refused has no document for the same reason. -/
theorem encodeBinary_of_unresolved (h : kind.declaration.resolve = .error error) :
    encodeBinary granted kind entity = .failed error := by
  simp only [encodeBinary, h]

/-- So has one whose key is refused, before its bytes are asked for. -/
theorem encodeBinary_of_refusedKey (hresolve : kind.declaration.resolve = .ok metadata)
    (hkey : requireKey metadata (kind.key entity) = .error error) :
    encodeBinary granted kind entity = .failed error := by
  simp only [encodeBinary, hresolve, hkey]

/-- Of a binary entity with a key the stated size is looked at first, and then the bytes. -/
theorem encodeBinary_of_key (hresolve : kind.declaration.resolve = .ok metadata)
    (hkey : requireKey metadata (kind.key entity) = .ok key) :
    encodeBinary granted kind entity =
      match reservationAbort? granted (kind.size entity).toNat with
      | some cause => .aborted cause
      | none => encodeStream metadata key (kind.stream entity) := by
  simp only [encodeBinary, hresolve, hkey]
  cases kind.stream entity <;> rfl

/-- A binary entity with a key is cut short by whatever cuts its reservation short. -/
theorem encodeBinary_of_abort (hresolve : kind.declaration.resolve = .ok metadata)
    (hkey : requireKey metadata (kind.key entity) = .ok key) {cause : Abort}
    (hcause : reservationAbort? granted (kind.size entity).toNat = some cause) :
    encodeBinary granted kind entity = .aborted cause := by
  rw [encodeBinary_of_key hresolve hkey, hcause]

/-- If space can be reserved for what it states, a binary entity with a key comes to its bytes. -/
theorem encodeBinary_of_reservable (hresolve : kind.declaration.resolve = .ok metadata)
    (hkey : requireKey metadata (kind.key entity) = .ok key)
    (hsize : Reservable granted (kind.size entity).toNat) :
    encodeBinary granted kind entity = encodeStream metadata key (kind.stream entity) := by
  rw [encodeBinary_of_key hresolve hkey, reservationAbort?_eq_none_iff.mpr hsize]

end Binary

/-- What is known of a binary entity that is encoded. -/
theorem encodeBinary_eq_done {granted : Nat} {kind : BinaryKind α} {entity : α} {encoded : Encoded}
    (h : encodeBinary granted kind entity = .done encoded) :
    ∃ metadata key bytes, kind.declaration.resolve = .ok metadata ∧
      requireKey metadata (kind.key entity) = .ok key ∧ kind.stream entity = .ok bytes ∧
      encoded = ⟨metadata.collection, key,
        [(identityField, .string key), (dataField, .binary 0 bytes)]⟩ := by
  cases hresolve : kind.declaration.resolve with
  | error error => simp [encodeBinary_of_unresolved hresolve] at h
  | ok metadata =>
    cases hkey : requireKey metadata (kind.key entity) with
    | error error => simp [encodeBinary_of_refusedKey hresolve hkey] at h
    | ok key =>
      rw [encodeBinary_of_key hresolve hkey] at h
      split at h
      · exact absurd h (by simp)
      · cases hstream : kind.stream entity with
        | error detail => simp [hstream, encodeStream] at h
        | ok bytes =>
          rw [hstream] at h
          exact ⟨metadata, key, bytes, rfl, hkey, rfl, (Outcome.done.inj h).symm⟩

end Codec

end KeyedStore
