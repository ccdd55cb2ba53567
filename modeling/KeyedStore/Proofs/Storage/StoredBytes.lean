import KeyedStore.Proofs.Codec.Reservation
import KeyedStore.Proofs.Storage.RoundTrip
import KeyedStore.Proofs.Storage.StoredIntegers
import KeyedStore.World.Archive

/-!
# Bytes of stored documents

The bytes of a world are kept as bytes, and another program may keep them as a list of integers of
either width. Whichever of the two a document has, the same bytes are read of it, and of nothing
else: one integer that no byte can hold makes the whole list unreadable.

- `Bson.IsByte`, `Document.HoldsBytes`: the bytes that a value and a document hold;
- `Codec.dataOf_eq_ok_iff`: they are what is read;
- `WorldArchive.run_load_stored`: what is stored is loaded;
- `WorldArchive.decodes_bytes`: which documents are worlds, and of which bytes.

## References

- SPEC_FULL.md, section 10.4, the `data` of binary documents
-/

namespace KeyedStore

/-! ## Lists of integers -/

namespace Bson

/-- The value is an integer of 32 or 64 bits, and the byte is the same number. -/
def IsByte (value : Bson) (byte : UInt8) : Prop :=
  value.IsInteger byte.toNat

theorem isInteger_int32_iff {n : Int32} {m : Int} : (int32 n).IsInteger m ↔ n.toInt = m := by
  constructor
  · rintro ⟨⟩
    rfl
  · rintro rfl
    exact .int32 n

theorem isInteger_int64_iff {n : Int64} {m : Int} : (int64 n).IsInteger m ↔ n.toInt = m := by
  constructor
  · rintro ⟨⟩
    rfl
  · rintro rfl
    exact .int64 n

/-- An integer is some byte exactly if it is in the range of the bytes. -/
theorem exists_isByte_iff {value : Bson} :
    (∃ byte, value.IsByte byte) ↔ ∃ n, value.IsInteger n ∧ 0 ≤ n ∧ n ≤ 255 := by
  constructor
  · rintro ⟨byte, hbyte⟩
    have hlt := byte.toNat_lt
    exact ⟨_, hbyte, by omega, by omega⟩
  · rintro ⟨n, hinteger, hlow, hhigh⟩
    have hlt : n.toNat < 2 ^ 8 := by omega
    refine ⟨UInt8.ofNat n.toNat, ?_⟩
    rwa [IsByte, UInt8.toNat_ofNat_of_lt' hlt, Int.toNat_of_nonneg hlow]

/-- An integer in the range of the bytes is taken for the byte of that number. -/
theorem byteOfRange_eq_some_iff {n : Int} {byte : UInt8} :
    (if 0 ≤ n ∧ n ≤ 255 then some (UInt8.ofNat n.toNat) else none) = some byte ↔
      n = byte.toNat := by
  have hlt := byte.toNat_lt
  split_ifs with hrange
  · have hbelow : n.toNat < 2 ^ 8 := by omega
    rw [Option.some.injEq, ← UInt8.toNat_inj, UInt8.toNat_ofNat_of_lt' hbelow]
    omega
  · simp only [false_iff]
    omega

/-- Items are some bytes exactly if every one of them is in the range of the bytes. -/
theorem exists_bytes_iff {items : List Bson} :
    (∃ bytes, List.Forall₂ IsByte items bytes) ↔
      ∀ item ∈ items, ∃ n, item.IsInteger n ∧ 0 ≤ n ∧ n ≤ 255 := by
  induction items with
  | nil => simp
  | cons item items ih =>
    rw [List.forall_mem_cons, ← ih, ← exists_isByte_iff]
    constructor
    · rintro ⟨_, - | ⟨hbyte, hrest⟩⟩
      exact ⟨⟨_, hbyte⟩, _, hrest⟩
    · rintro ⟨⟨byte, hbyte⟩, bytes, hrest⟩
      exact ⟨byte :: bytes, .cons hbyte hrest⟩

end Bson

namespace Codec

/-- An item of a list is read as a byte exactly if it is one. -/
theorem byteOf?_eq_some_iff {value : Bson} {byte : UInt8} :
    byteOf? value = some byte ↔ value.IsByte byte := by
  cases value with
  | int32 n => rw [byteOf?, Bson.byteOfRange_eq_some_iff, Bson.IsByte, Bson.isInteger_int32_iff]
  | int64 n => rw [byteOf?, Bson.byteOfRange_eq_some_iff, Bson.IsByte, Bson.isInteger_int64_iff]
  | _ =>
    simp only [byteOf?, reduceCtorEq, false_iff]
    rintro ⟨⟩

/-- A list is read as bytes exactly if its items are these bytes, one after the other. -/
theorem bytesOfItems?_eq_some_iff {items : List Bson} {bytes : List UInt8} :
    bytesOfItems? items = some bytes ↔ List.Forall₂ Bson.IsByte items bytes := by
  rw [bytesOfItems?]
  induction items generalizing bytes with
  | nil => simp [eq_comm]
  | cons item items ih =>
    simp only [List.mapM_cons, Option.bind_eq_bind, Option.bind_eq_some_iff, Option.pure_def,
      Option.some.injEq, byteOf?_eq_some_iff]
    constructor
    · rintro ⟨byte, hbyte, rest, hrest, rfl⟩
      exact .cons hbyte (ih.mp hrest)
    · rintro (- | ⟨hbyte, hrest⟩)
      exact ⟨_, hbyte, _, ih.mpr hrest, rfl⟩

end Codec

/-! ## Documents -/

namespace Document

/-- The document of a binary entity holds these bytes. -/
inductive HoldsBytes (document : Document) (bytes : List UInt8) : Prop where
  /-- It has them as bytes, of whatever kind. -/
  | binary (subtype : UInt8) :
    Pairs.get? dataField document = some (.binary subtype bytes) → HoldsBytes document bytes
  /-- It has them as a list of integers. -/
  | array (items : List Bson) :
    Pairs.get? dataField document = some (.array items) → List.Forall₂ Bson.IsByte items bytes →
    HoldsBytes document bytes

/-- A document holds bytes exactly if its data are bytes or integers in their range. -/
theorem exists_holdsBytes_iff {document : Document} :
    (∃ bytes, HoldsBytes document bytes) ↔
      (∃ subtype bytes, Pairs.get? dataField document = some (.binary subtype bytes)) ∨
      ∃ items, Pairs.get? dataField document = some (.array items) ∧
        ∀ item ∈ items, ∃ n, item.IsInteger n ∧ 0 ≤ n ∧ n ≤ 255 := by
  constructor
  · rintro ⟨bytes, ⟨subtype, hdata⟩ | ⟨items, hdata, hitems⟩⟩
    · exact .inl ⟨subtype, bytes, hdata⟩
    · exact .inr ⟨items, hdata, Bson.exists_bytes_iff.mp ⟨bytes, hitems⟩⟩
  · rintro (⟨subtype, bytes, hdata⟩ | ⟨items, hdata, hrange⟩)
    · exact ⟨bytes, .binary subtype hdata⟩
    · obtain ⟨bytes, hitems⟩ := Bson.exists_bytes_iff.mpr hrange
      exact ⟨bytes, .array items hdata hitems⟩

end Document

namespace Codec

variable {metadata : Metadata} {document : Document} {key : String}

/-- The bytes that a document holds are read of it, and nothing else is. -/
theorem dataOf_eq_ok_iff (metadata : Metadata) (document : Document) (key : String)
    {bytes : List UInt8} :
    dataOf metadata document key = .ok bytes ↔ Document.HoldsBytes document bytes := by
  constructor
  · intro h
    unfold dataOf at h
    split at h
    · rename_i subtype stored hdata
      obtain rfl := Except.ok.inj h
      exact .binary subtype hdata
    · rename_i items hdata
      split at h
      · rename_i stored hitems
        obtain rfl := Except.ok.inj h
        exact .array items hdata (bytesOfItems?_eq_some_iff.mp hitems)
      · exact absurd h (by simp)
    · exact absurd h (by simp)
    · exact absurd h (by simp)
  · rintro (⟨subtype, hdata⟩ | ⟨items, hdata, hitems⟩)
    · rw [dataOf, hdata]
    · rw [dataOf, hdata]
      simp only [bytesOfItems?_eq_some_iff.mpr hitems]

/-- Data that are no bytes are a defect of the document. -/
theorem kind_of_dataOf {error : StoreError} (h : dataOf metadata document key = .error error) :
    error.kind = .serialization := by
  unfold dataOf at h
  split at h
  · exact absurd h (by simp)
  · split at h
    · exact absurd h (by simp)
    · rw [← Except.error.inj h]
      rfl
  · rw [← Except.error.inj h]
    rfl
  · rw [← Except.error.inj h]
    rfl

end Codec

/-! ## Worlds -/

namespace WorldArchive

open Memory

/-- The declaration of worlds keeps the rules. -/
theorem resolve_kind : kind.declaration.resolve = .ok ⟨"WorldBinaryData", "worlds", "key"⟩ := rfl

variable {document : Document} {key : String} {archive : WorldArchive}

/-- A world is decoded to the bytes that are read of its document, under the key that it is asked
for by. -/
theorem decode_eq (document : Document) (key : String) :
    Codec.decodeBinary kind document key =
      (Codec.dataOf ⟨"WorldBinaryData", "worlds", "key"⟩ document key).map (mk key) := by
  simp only [Codec.decodeBinary, resolve_kind, bind, Except.bind]
  cases Codec.dataOf ⟨"WorldBinaryData", "worlds", "key"⟩ document key <;> rfl

/-- A document is a world exactly if it holds the bytes of the world. -/
theorem decode_eq_ok_iff :
    Codec.decodeBinary kind document key = .ok archive ↔
      archive.key = key ∧ Document.HoldsBytes document archive.data := by
  rw [decode_eq, ← Codec.dataOf_eq_ok_iff ⟨"WorldBinaryData", "worlds", "key"⟩ document key]
  obtain ⟨name, data⟩ := archive
  cases Codec.dataOf ⟨"WorldBinaryData", "worlds", "key"⟩ document key with
  | error error => simp [Except.map]
  | ok bytes => simp [Except.map, eq_comm]

/-- A document that is no world is a serialization error. -/
theorem kind_of_decode {error : StoreError}
    (h : Codec.decodeBinary kind document key = .error error) : error.kind = .serialization := by
  rw [decode_eq] at h
  cases hdata : Codec.dataOf ⟨"WorldBinaryData", "worlds", "key"⟩ document key with
  | error other =>
    rw [hdata] at h
    obtain rfl := Except.error.inj h
    exact Codec.kind_of_dataOf hdata
  | ok bytes =>
    rw [hdata] at h
    exact absurd h (by simp [Except.map])

/-- A world with a key has a document with its bytes, if space can be reserved for them. -/
theorem encode_eq {granted : Nat} (hne : archive.key ≠ "")
    (hroom : Codec.Reservable granted archive.data.length) :
    Codec.encodeBinary granted kind archive = .done ⟨"worlds", archive.key,
      [(identityField, .string archive.key), (dataField, .binary 0 archive.data)]⟩ := by
  have hkey : Codec.requireKey ⟨"WorldBinaryData", "worlds", "key"⟩ (kind.key archive) =
      .ok archive.key := if_neg hne
  exact Codec.encodeBinary_of_reservable resolve_kind hkey hroom.toNat_length

/-- A world is stored on an open backend, and after any calls that spare its slot it is loaded as it
was. Nothing is reported at either end. -/
theorem run_load_stored {granted : Nat} (archive : WorldArchive) {start : Service Memory}
    (hne : archive.key ≠ "") (hroom : Codec.Reservable granted archive.data.length)
    (hopen : start.state.isOpen = true) (calls : List Call) :
    let store := Facade.storeBinary granted kind archive
    let stored := store.run backend start
    stored.1 = .done () ∧ store.reports backend start = [] ∧
      (stored.2.Throughout backend
          (fun now call => call.Spares ⟨"worlds", archive.key⟩ now) calls →
        let later := stored.2.afterAll backend calls
        ((Facade.loadBinary kind archive.key).run backend later).1 = .done (some archive) ∧
          (Facade.loadBinary kind archive.key).reports backend later = []) := by
  have hdecode : ∀ options, (Kind.binary granted kind).decode options
      [(identityField, .string archive.key), (dataField, .binary 0 archive.data)] archive.key =
      .ok archive := fun _ => decode_eq_ok_iff.mpr ⟨rfl, .binary 0 rfl⟩
  exact (Kind.binary granted kind).run_roundTrip resolve_kind hopen (encode_eq hne hroom) hdecode
    calls

/-- How worlds are read from documents, whoever has written these, and how a world that is stored
here comes back, where memory grants no more than `granted` bytes at once. -/
structure DecodesBytes (granted : Nat) : Prop where
  /-- A document is decoded to the key that it is asked for by and to the bytes that it holds. -/
  decode_iff : ∀ (document : Document) (key : String) (archive : WorldArchive),
    Codec.decodeBinary kind document key = .ok archive ↔
      archive.key = key ∧ Document.HoldsBytes document archive.data
  /-- It is decoded at all exactly if its data are bytes or integers in their range. -/
  exists_decode_iff : ∀ (document : Document) (key : String),
    (∃ archive, Codec.decodeBinary kind document key = .ok archive) ↔
      (∃ subtype bytes, Pairs.get? dataField document = some (.binary subtype bytes)) ∨
      ∃ items, Pairs.get? dataField document = some (.array items) ∧
        ∀ item ∈ items, ∃ n, item.IsInteger n ∧ 0 ≤ n ∧ n ≤ 255
  /-- Any other document is a serialization error. -/
  kind_of_refusal : ∀ (document : Document) (key : String) (error : StoreError),
    Codec.decodeBinary kind document key = .error error → error.kind = .serialization
  /-- Documents of the same bytes are decoded alike. -/
  decode_alike : ∀ (first second : Document) (key : String) (bytes : List UInt8),
    Document.HoldsBytes first bytes → Document.HoldsBytes second bytes →
    Codec.decodeBinary kind first key = Codec.decodeBinary kind second key
  /-- A world with a key is stored, if space can be reserved for its bytes, and loaded as it was
  after any calls that spare its slot. Nothing is reported. -/
  load_stored : ∀ (archive : WorldArchive) (start : Service Memory) (calls : List Call),
    archive.key ≠ "" → Codec.Reservable granted archive.data.length →
    start.state.isOpen = true →
    let store := Facade.storeBinary granted kind archive
    let stored := store.run backend start
    stored.1 = .done () ∧ store.reports backend start = [] ∧
      (stored.2.Throughout backend
          (fun now call => call.Spares ⟨"worlds", archive.key⟩ now) calls →
        let later := stored.2.afterAll backend calls
        ((Facade.loadBinary kind archive.key).run backend later).1 = .done (some archive) ∧
          (Facade.loadBinary kind archive.key).reports backend later = [])

/-- The world of a document is its bytes, in whichever form it holds them, and nothing else is
decoded. However much memory grants, a world that it has room for is stored and loaded. -/
theorem decodes_bytes (granted : Nat) : DecodesBytes granted where
  decode_iff _ _ _ := decode_eq_ok_iff
  exists_decode_iff document key := by
    rw [← Document.exists_holdsBytes_iff]
    constructor
    · rintro ⟨archive, hdecode⟩
      exact ⟨archive.data, (decode_eq_ok_iff.mp hdecode).2⟩
    · rintro ⟨bytes, hbytes⟩
      exact ⟨⟨key, bytes⟩, decode_eq_ok_iff.mpr ⟨rfl, hbytes⟩⟩
  kind_of_refusal _ _ _ := kind_of_decode
  decode_alike first second key bytes hfirst hsecond := by
    have hdecode : ∀ document, Document.HoldsBytes document bytes →
        Codec.decodeBinary kind document key = .ok ⟨key, bytes⟩ :=
      fun document hbytes => decode_eq_ok_iff.mpr ⟨rfl, hbytes⟩
    rw [hdecode first hfirst, hdecode second hsecond]
  load_stored archive _ calls hne hroom hopen := run_load_stored archive hne hroom hopen calls

/-- A list of integers of both widths is loaded like the bytes, a list with one number too many is
not loaded, and a world that is stored is found again. -/
theorem decodes_bytes_mixed :
    let listed : Document := [("_id", .string "a:b"), ("data", .array [.int32 1, .int64 255])]
    let packed : Document := [("data", .binary 128 [1, 255])]
    let beyond : Document := [("data", .array [.int32 1, .int64 256])]
    let stored := (Facade.storeBinary 2 kind ⟨"a:b", [1, 255]⟩).run backend (.on .fresh .collect)
    Codec.decodeBinary kind listed "a:b" = .ok ⟨"a:b", [1, 255]⟩ ∧
      Codec.decodeBinary kind listed "a:b" = Codec.decodeBinary kind packed "a:b" ∧
      (¬ ∃ archive, Codec.decodeBinary kind beyond "a:b" = .ok archive) ∧
      ((Facade.loadBinary kind "a:b").run backend stored.2).1 =
        .done (some ⟨"a:b", [1, 255]⟩) := by
  intro listed packed beyond stored
  have hitems : List.Forall₂ Bson.IsByte [.int32 1, .int64 255] [1, 255] :=
    .cons (.int32 1) (.cons (.int64 255) .nil)
  have hlisted : Document.HoldsBytes listed [1, 255] := .array _ rfl hitems
  have hroom : Codec.Reservable 2 2 := ⟨by decide, le_rfl⟩
  have hbytes := decodes_bytes 2
  refine ⟨(hbytes.decode_iff _ _ _).mpr ⟨rfl, hlisted⟩,
    hbytes.decode_alike _ _ _ _ hlisted (.binary 128 rfl), ?_,
    ((hbytes.load_stored ⟨"a:b", [1, 255]⟩ (.on .fresh .collect) [] (by decide) hroom rfl).2.2
      trivial).1⟩
  rw [hbytes.exists_decode_iff]
  rintro (⟨_, _, ⟨⟩⟩ | ⟨_, ⟨⟩, hrange⟩)
  obtain ⟨_, ⟨⟩, -, hhigh⟩ := hrange (.int64 256) (by simp)
  exact absurd hhigh (by decide)

end WorldArchive

end KeyedStore
