import KeyedStore.Proofs.Codec.Encoding
import KeyedStore.Specimen.Archives

/-!
# Stated sizes

Before the bytes of a binary entity are read, space is reserved for as many as the entity says it
has. Whatever it says, the document holds the bytes that are read, so the statement only matters
where that space cannot be had: then the encoder is cut short, by itself if no address could span
the space and by the memory if it grants less.

How much memory grants at once is left open. Only the reservation is held against it: the bytes that
are read are taken to have room, however the space for them grows while they are read.

- `encodeBinary_eq_of_alike`: two statements that can be reserved for make no difference;
- `FaultyArchive.encode_size_only_reserves`: what a statement of any size comes to.

## References

- SPEC_FULL.md, section 4.2, the binary variant; section 6, `size_in_bytes`; section 7, what may
  reach a caller
-/

namespace KeyedStore

namespace Codec

variable {α : Type} {kind : BinaryKind α} {granted : Nat}

/-- Space can be reserved for the length of a list as an unsigned integer of 64 bits if it can be
reserved for the list. -/
theorem Reservable.toNat_length {bytes : List UInt8} (h : Reservable granted bytes.length) :
    Reservable granted (UInt64.ofNat bytes.length).toNat := by
  have hle : (UInt64.ofNat bytes.length).toNat ≤ bytes.length := by
    rw [UInt64.toNat_ofNat']
    exact Nat.mod_le _ _
  exact ⟨Nat.le_trans hle h.1, Nat.le_trans hle h.2⟩

/-- A reservation of a size that is not reservable cuts the program short. -/
theorem exists_abort_of_not_reservable {size : Nat} (h : ¬ Reservable granted size) :
    ∃ cause, reservationAbort? granted size = some cause :=
  Option.ne_none_iff_exists'.mp (mt reservationAbort?_eq_none_iff.mp h)

/-- Two entities with the same key and the same bytes have the same document, or none for the same
reason, if space can be reserved for what each of them states. -/
theorem encodeBinary_eq_of_alike {first second : α} (hkey : kind.key first = kind.key second)
    (hstream : kind.stream first = kind.stream second)
    (hfirst : Reservable granted (kind.size first).toNat)
    (hsecond : Reservable granted (kind.size second).toNat) :
    encodeBinary granted kind first = encodeBinary granted kind second := by
  simp only [encodeBinary, hkey, hstream, reservationAbort?_eq_none_iff.mpr hfirst,
    reservationAbort?_eq_none_iff.mpr hsecond]

end Codec

namespace FaultyArchive

open Codec

/-- The same archive stating its true size. -/
def honest (archive : FaultyArchive) : FaultyArchive :=
  { archive with statedSize := none }

/-- An archive has a key that it can be stored under. -/
def Keyed (archive : FaultyArchive) : Prop :=
  ∃ key, archive.key = some key ∧ key ≠ ""

/-- The declaration of faulty archives keeps the rules. -/
theorem resolve_kind :
    kind.declaration.resolve = .ok ⟨"FaultyBinary", "faulty_archives", "key"⟩ := rfl

variable {granted : Nat} {archive : FaultyArchive} {key : String}

/-- The key of an archive is accepted if there is one that is not empty. -/
theorem requireKey_of_key (hkey : archive.key = some key) (hne : key ≠ "") :
    requireKey ⟨"FaultyBinary", "faulty_archives", "key"⟩ (kind.key archive) = .ok key := by
  show requireKey _ archive.key = _
  rw [hkey]
  exact if_neg hne

/-- An archive with a key is cut short by whatever cuts its reservation short. -/
theorem encode_of_abort {cause : Abort} (hkeyed : archive.Keyed)
    (hcause : reservationAbort? granted archive.size.toNat = some cause) :
    encodeBinary granted kind archive = .aborted cause := by
  obtain ⟨key, hkey, hne⟩ := hkeyed
  exact encodeBinary_of_abort resolve_kind (requireKey_of_key hkey hne) hcause

/-- An archive without a key is refused as misconfigured, whatever it states. -/
theorem encode_of_not_keyed (h : ¬ archive.Keyed) :
    ∃ error, error.isConfiguration = true ∧ encodeBinary granted kind archive = .failed error ∧
      encodeBinary granted kind archive.honest = .failed error := by
  obtain ⟨error, hrequire, hconfiguration⟩ | ⟨key, hkey, hne, -⟩ :=
    requireKey_cases ⟨"FaultyBinary", "faulty_archives", "key"⟩ archive.key
  · exact ⟨error, hconfiguration, encodeBinary_of_refusedKey resolve_kind hrequire,
      encodeBinary_of_refusedKey resolve_kind hrequire⟩
  · exact absurd ⟨key, hkey, hne⟩ h

/-- An archive with a key that states its true size is never cut short: it comes to its bytes, or to
the reason why they cannot be read. -/
theorem encode_honest (h : Reservable granted archive.data.length)
    (hkey : archive.key = some key) (hne : key ≠ "") :
    encodeBinary granted kind archive.honest =
      encodeStream ⟨"FaultyBinary", "faulty_archives", "key"⟩ key (kind.stream archive) :=
  encodeBinary_of_reservable resolve_kind (requireKey_of_key hkey hne) h.toNat_length

/-- What an archive states makes no difference exactly if space can be reserved for it or nobody
asks. -/
theorem encode_eq_encode_honest_iff (h : Reservable granted archive.data.length) :
    encodeBinary granted kind archive = encodeBinary granted kind archive.honest ↔
      Reservable granted archive.size.toNat ∨ ¬ archive.Keyed := by
  constructor
  · intro hsame
    by_cases hsize : Reservable granted archive.size.toNat
    · exact .inl hsize
    · -- The archive is cut short, and the honest one is not.
      refine .inr fun ⟨key, hkey, hne⟩ => ?_
      obtain ⟨cause, hcause⟩ := exists_abort_of_not_reservable hsize
      rw [encode_of_abort ⟨key, hkey, hne⟩ hcause, encode_honest h hkey hne] at hsame
      cases hstream : kind.stream archive <;> simp [hstream, encodeStream] at hsame
  · rintro (hsize | hunkeyed)
    · exact encodeBinary_eq_of_alike rfl rfl hsize h.toNat_length
    · obtain ⟨error, -, hfailed, hother⟩ := encode_of_not_keyed hunkeyed
      rw [hfailed, hother]

/-- What the stated size of an archive does where memory grants no more than `granted` bytes at
once: nothing, unless the space that it asks for cannot be had. -/
structure SizeOnlyReserves (granted : Nat) (archive : FaultyArchive) : Prop where
  /-- The stated size makes no difference exactly if space can be reserved for it, or if the archive
  is refused before it is looked at. -/
  eq_honest_iff : encodeBinary granted kind archive = encodeBinary granted kind archive.honest ↔
    Reservable granted archive.size.toNat ∨ ¬ archive.Keyed
  /-- An archive with a key that states more than an address can span cuts the encoder short. -/
  unspanned : maxReservation < archive.size.toNat → archive.Keyed →
    encodeBinary granted kind archive = .aborted .capacityOverflow
  /-- One that states more than memory grants has the program stopped by the memory. -/
  refused : archive.size.toNat ≤ maxReservation → granted < archive.size.toNat → archive.Keyed →
    encodeBinary granted kind archive = .aborted (.allocationRefused archive.size.toNat)
  /-- With its true size an archive that has a key comes to exactly its bytes. -/
  honest_bytes : ∀ key, archive.key = some key → key ≠ "" → archive.readError = none →
    encodeBinary granted kind archive.honest = .done ⟨"faulty_archives", key,
      [(identityField, .string key), (dataField, .binary 0 archive.data)]⟩
  /-- If they cannot be read, it comes to the reason for that. -/
  honest_broken : ∀ detail, archive.Keyed → archive.readError = some detail →
    encodeBinary granted kind archive.honest = .failed (.brokenStream detail)
  /-- Without a key it comes to a configuration error. -/
  honest_unkeyed : ¬ archive.Keyed → ∃ error, error.isConfiguration = true ∧
    encodeBinary granted kind archive.honest = .failed error

/-- The stated size of an archive does nothing but reserve space, however much memory grants, as
long as the bytes themselves have room. -/
theorem encode_size_only_reserves (granted : Nat) (archive : FaultyArchive)
    (h : Reservable granted archive.data.length) : archive.SizeOnlyReserves granted where
  eq_honest_iff := encode_eq_encode_honest_iff h
  unspanned hspan hkeyed := encode_of_abort hkeyed (if_pos hspan)
  refused hspan hgrant hkeyed := by
    refine encode_of_abort hkeyed ?_
    rw [reservationAbort?, if_neg (Nat.not_lt.mpr hspan), if_pos hgrant]
  honest_bytes key hkey hne hread := by
    rw [encode_honest h hkey hne]
    simp [kind, hread, encodeStream]
  honest_broken detail hkeyed hread := by
    obtain ⟨key, hkey, hne⟩ := hkeyed
    rw [encode_honest h hkey hne]
    simp [kind, hread, encodeStream]
  honest_unkeyed hunkeyed := by
    obtain ⟨error, hconfiguration, -, hfailed⟩ := encode_of_not_keyed hunkeyed
    exact ⟨error, hconfiguration, hfailed⟩

/-- Where memory grants a gibibyte at once, an archive of one byte may state so many bytes, but not
one more; and no memory helps one that states more than an address can span. -/
theorem encode_size_only_reserves_gibibyte :
    let stating (size : UInt64) : FaultyArchive := ⟨some "k", [0], none, some size⟩
    encodeBinary 1073741824 kind (stating 1073741824) = .done ⟨"faulty_archives", "k",
        [(identityField, .string "k"), (dataField, .binary 0 [0])]⟩ ∧
      encodeBinary 1073741824 kind (stating 1073741825) =
        .aborted (.allocationRefused 1073741825) ∧
      encodeBinary 1073741824 kind (stating 9223372036854775808) = .aborted .capacityOverflow := by
  intro stating
  have hroom : Reservable 1073741824 1 := ⟨by decide, by decide⟩
  have hkeyed : ∀ size, (stating size).Keyed := fun size => ⟨"k", rfl, by decide⟩
  have hgranted := encode_size_only_reserves 1073741824 (stating 1073741824) hroom
  have hrefused := encode_size_only_reserves 1073741824 (stating 1073741825) hroom
  have hunspanned := encode_size_only_reserves 1073741824 (stating 9223372036854775808) hroom
  refine ⟨?_, hrefused.refused (by decide) (by decide) (hkeyed _),
    hunspanned.unspanned (by decide) (hkeyed _)⟩
  rw [hgranted.eq_honest_iff.mpr (.inl ⟨by decide, by decide⟩)]
  exact hgranted.honest_bytes "k" rfl (by decide) rfl

/-- It is not so that the stated size never matters: an archive that states more than an address can
span is not encoded, although its bytes could be. -/
theorem not_forall_encode_eq_encode_honest :
    ¬ ∀ (granted : Nat) (archive : FaultyArchive), Reservable granted archive.data.length →
      encodeBinary granted kind archive = encodeBinary granted kind archive.honest := by
  intro h
  have hroom : Reservable 1073741824 1 := ⟨by decide, by decide⟩
  have hsame := h 1073741824 ⟨some "k", [0], none, some 18446744073709551615⟩ hroom
  rw [encode_eq_encode_honest_iff hroom] at hsame
  exact hsame.elim (fun hsize => absurd hsize.1 (by decide)) fun hunkeyed =>
    hunkeyed ⟨"k", rfl, by decide⟩

end FaultyArchive

end KeyedStore
