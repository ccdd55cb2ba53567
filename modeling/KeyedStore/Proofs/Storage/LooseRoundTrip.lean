import KeyedStore.Proofs.Storage.RoundTrip
import KeyedStore.Specimen.Loose

/-!
# What is stored of any payload is loaded

An entity of any payload comes back with its key and its payload if BSON holds the payload as it is,
nothing of it is left out, and a reader goes as deep as it is nested. Only the fields at the top may
have changed places; every value in them is the same.

- `Loose.Keepable`: what a payload has to be like;
- `Loose.run_store_load`: a keepable payload is loaded again, whatever happens to other slots in
  between.

## References

- SPEC_FULL.md, section 8, Round trip
-/

namespace KeyedStore

open Memory

/-- The depth of an object does not depend on the order of its pairs. -/
theorem Json.depthOfPairs_perm {first second : List (String × Json)} (h : first.Perm second) :
    depthOfPairs first = depthOfPairs second := by
  induction h with
  | nil => rfl
  | cons pair _ ih => rw [depthOfPairs, depthOfPairs, ih]
  | swap first second pairs => simp only [depthOfPairs, Nat.max_left_comm]
  | trans _ _ ihFirst ihSecond => exact ihFirst.trans ihSecond

namespace Loose

/-- A payload with a key can be kept and read again: under its own name the key is there, the
document takes every field as it is, and none of them has to give way. -/
structure Keepable (metadata : Metadata) (options : CodecOptions) (key : String)
    (pairs : List (String × Json)) : Prop where
  /-- No field is there twice. -/
  distinct : Pairs.Distinct pairs
  /-- The key field holds the key. -/
  keyed : Pairs.get? metadata.keyField pairs = some (.string key)
  /-- The key is not empty. -/
  nonempty : key ≠ ""
  /-- At any depth, no name begins with a dollar sign, and numbers are whole and have 64 signed
  bits. -/
  plain : Json.Plain (.object pairs)
  /-- No field at the top is left out as a null. -/
  kept : options.omitNullFields = true → ∀ pair ∈ pairs, pair.2.isNull = false
  /-- A field at the top has the name of the identity only if that is the key field. -/
  identity : identityField ∈ Pairs.names pairs → metadata.keyField = identityField
  /-- A reader goes as deep as the payload is nested. -/
  shallow : (Json.object pairs).depth ≤ maxDepth

variable {declaration : Declaration} {metadata : Metadata} {options : CodecOptions} {key : String}
  {pairs shown : List (String × Json)}

/-- What is shown of a keepable payload is the payload, in some order. -/
theorem Keepable.perm_shown (h : Keepable metadata options key pairs)
    (hshown : Codec.Shown metadata options pairs key shown) : shown.Perm pairs := by
  refine Pairs.perm_of_get?_eq hshown.distinct h.distinct fun name => ?_
  rw [hshown.get?_eq]
  split_ifs with hkey hid
  · rw [hkey, h.keyed]
  · -- The identity is not the key field here, so no field has its name.
    refine (Pairs.get?_eq_none_of_not_mem fun hmem => hkey ?_).symm
    rw [hid] at hmem ⊢
    exact (h.identity hmem).symm
  · cases hvalue : Pairs.get? name pairs with
    | none => rfl
    | some value =>
      -- A field is only left out for being null, and no such field is there.
      have hkeeps : options.keeps value = true := by
        rw [CodecOptions.keeps_iff]
        rintro ⟨homit, hnull⟩
        rw [h.kept homit _ (Pairs.mem_of_get?_eq_some hvalue)] at hnull
        exact absurd hnull (by simp)
      exact Option.filter_some_pos hkeeps

/-- An entity is read from what is shown of a keepable payload. -/
theorem Keepable.read_shown (h : Keepable metadata options key pairs)
    (hshown : Codec.Shown metadata options pairs key shown) :
    read metadata.keyField (.object shown) = .ok ⟨some key, .object shown⟩ := by
  have hdepth : (Json.object shown).depth ≤ maxDepth := by
    rw [Json.depth, Json.depthOfPairs_perm (h.perm_shown hshown), ← Json.depth]
    exact h.shallow
  have hkey : stringAt metadata.keyField shown = some key := by
    rw [stringAt, hshown.get?_key]
  rw [read, if_neg (by omega)]
  exact congrArg (fun key => Except.ok (Loose.mk key _)) hkey

/-- An entity with a keepable payload is stored on an open backend, and after any calls that spare
its slot it is loaded with the same key and the same payload, in some order. Nothing is reported at
either end. -/
theorem run_store_load (hresolve : declaration.resolve = .ok metadata) {start : Service Memory}
    (h : Keepable metadata start.options key pairs) (hopen : start.state.isOpen = true)
    (calls : List Call) :
    let stored := (Facade.store (kind declaration) ⟨some key, .object pairs⟩).run backend start
    stored.1 = .done () ∧
      (Facade.store (kind declaration) ⟨some key, .object pairs⟩).reports backend start = [] ∧
      (stored.2.Throughout backend
          (fun now call => call.Spares ⟨metadata.collection, key⟩ now) calls →
        let later := stored.2.afterAll backend calls
        ∃ shown, shown.Perm pairs ∧
          ((Facade.load (kind declaration) key).run backend later).1 =
            .done (some ⟨some key, .object shown⟩) ∧
          (Facade.load (kind declaration) key).reports backend later = []) := by
  intro stored
  have hresolves : (kind declaration).declaration.resolve = .ok metadata := hresolve
  have hkey : (kind declaration).key ⟨some key, .object pairs⟩ = some key := rfl
  obtain ⟨document, shown, hencode, hshown, hlegible, htext⟩ :=
    Codec.exists_encode_eq start.options hresolves hkey h.nonempty rfl h.distinct
      ⟨.string key, h.keyed, start.options.keeps_of_not_null rfl⟩ (Json.PlainPairs.faithful h.plain)
  have hread : (kind declaration).read (.object shown) = .ok ⟨some key, .object shown⟩ := by
    have := h.read_shown hshown
    rwa [Declaration.eq_of_resolve hresolve] at this
  have hencoding : (Kind.structured (kind declaration)).encode start.options
      ⟨some key, .object pairs⟩ = .done ⟨metadata.collection, key, document⟩ :=
    congrArg Outcome.ofExcept hencode
  -- The document is decoded alike under any options.
  have hdecode : ∀ options, (Kind.structured (kind declaration)).decode options document key =
      .ok ⟨some key, .object shown⟩ :=
    fun options => Codec.decode_of_shown options hresolve hlegible htext hread
  obtain ⟨houtcome, hreports, hload⟩ :=
    (Kind.structured (kind declaration)).run_roundTrip hresolve hopen hencoding hdecode calls
  exact ⟨houtcome, hreports, fun hspared => ⟨shown, h.perm_shown hshown, hload hspared⟩⟩

/-- A payload with a name beyond ASCII, separators and control characters, an inner null and the
least number of 64 bits is loaded again. -/
theorem run_store_load_unicode :
    let pairs : List (String × Json) := [("열쇠", .string "북"),
      ("text", .string "\"\u2028\x00"), ("inner", .object [("list", .array
        [.null, .whole (-9223372036854775808)])])]
    let kind := Loose.kind ⟨"specimen::LooseUnicode", "컬렉션", "열쇠"⟩
    let stored := (Facade.store kind ⟨some "북", .object pairs⟩).run backend (.on .fresh .collect)
    ∃ shown, shown.Perm pairs ∧
      ((Facade.load kind "북").run backend stored.2).1 =
        .done (some ⟨some "북", .object shown⟩) := by
  intro pairs kind stored
  have hresolve : Declaration.resolve ⟨"specimen::LooseUnicode", "컬렉션", "열쇠"⟩ =
      .ok ⟨"LooseUnicode", "컬렉션", "열쇠"⟩ := rfl
  have hkeepable : Keepable ⟨"LooseUnicode", "컬렉션", "열쇠"⟩ {} "북" pairs :=
    { distinct := by decide
      keyed := rfl
      nonempty := by decide
      plain := ⟨by decide, trivial, by decide, trivial, by decide,
        ⟨by decide, ⟨trivial, ⟨by decide, by decide⟩, trivial⟩, trivial⟩, trivial⟩
      kept := fun _ => by decide
      identity := by decide
      shallow := by decide }
  have hopen : (Service.on Memory.fresh .collect).state.isOpen = true := rfl
  obtain ⟨shown, hperm, hload, -⟩ := (run_store_load hresolve hkeepable hopen []).2.2 trivial
  exact ⟨shown, hperm, hload⟩

end Loose

end KeyedStore
