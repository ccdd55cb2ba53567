import KeyedStore.Entity.Declaration

/-!
# The cache of descriptions

Descriptions of types are kept for as long as the program runs. Resolving a type takes three steps,
between which other callers may take theirs: look the type up, describe it without the cache, and
keep the description unless another caller has been faster. A type whose declaration breaks a rule
is never kept. The steps are told for entries of any kind, so that entries which different callers
have made of the same type can be told apart.

## References

- SPEC_FULL.md, section 4.1, the memory of the resolver; section 10.3: `resolve`, `cached_count`
-/

namespace KeyedStore

/-- What has been kept, each under its type. -/
abbrev EntryCache (τ ε : Type) := List (τ × ε)

namespace EntryCache

variable {τ ε : Type} [DecidableEq τ]

/-- Keep an entry unless there is one, and return the one that is kept. -/
def keep (type : τ) (entry : ε) (cache : EntryCache τ ε) : ε × EntryCache τ ε :=
  match Pairs.get? type cache with
  | some kept => (kept, cache)
  | none => (entry, cache ++ [(type, entry)])

/-- How far a caller has come with a type. -/
inductive Caller (ε : Type) where
  /-- Before the look-up. -/
  | asking
  /-- The look-up has found nothing. -/
  | describing
  /-- The entry is to be kept. -/
  | keeping (entry : ε)
  /-- The caller has its answer. -/
  | answered (answer : Except StoreError ε)

/-- The next step of a caller. -/
def step (describe : τ → Except StoreError ε) (type : τ) :
    Caller ε → EntryCache τ ε → Caller ε × EntryCache τ ε
  | .asking, cache =>
    match Pairs.get? type cache with
    | some kept => (.answered (.ok kept), cache)
    | none => (.describing, cache)
  | .describing, cache =>
    match describe type with
    | .ok entry => (.keeping entry, cache)
    | .error error => (.answered (.error error), cache)
  | .keeping entry, cache =>
    -- Another caller may have kept an entry since the look-up; then that one counts.
    let (kept, cache) := keep type entry cache
    (.answered (.ok kept), cache)
  | .answered answer, cache => (.answered answer, cache)

/-- The number of types that something is kept under. -/
def size (cache : EntryCache τ ε) : Nat :=
  cache.length

end EntryCache

/-- The descriptions that have been kept, each under its type. -/
abbrev MetadataCache (τ : Type) := EntryCache τ Metadata

/-- All three steps of one caller without a break. -/
def MetadataCache.resolve {τ : Type} [DecidableEq τ] (declares : τ → Declaration) (type : τ)
    (cache : MetadataCache τ) : Except StoreError Metadata × MetadataCache τ :=
  match Pairs.get? type cache with
  | some kept => (.ok kept, cache)
  | none =>
    match (declares type).resolve with
    | .ok metadata =>
      let (kept, cache) := EntryCache.keep type metadata cache
      (.ok kept, cache)
    | .error error => (.error error, cache)

end KeyedStore
