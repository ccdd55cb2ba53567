import KeyedStore.Entity.MetadataCache
import KeyedStore.Proofs.Codec.Encoding
import KeyedStore.Proofs.Entity.NameRules
import KeyedStore.Proofs.Pairs
import Mathlib.Data.Finset.Card

/-!
# The check of all registrations

A program checks its registrations in turn when it starts, and resolves types one by one while it
runs. Both hold a type to the same rules, so the check succeeds exactly if every type would be
resolved; else it ends at the first registration that breaks a rule. On the way it remembers the
last owner of each collection, which is the nearest earlier one when the next owner comes.

- `Registry.Warned`: the warnings about registrations in turn;
- `Registry.Remembers`: what the check knows of the registrations before;
- `Registry.Verdict`, `Registry.verdict_validate`: how a check ends, and what it has logged by then;
- `MetadataCache.resolve_resolveAll`: a type is resolved alike whatever has been resolved before;
- `Registry.validate_agrees`: the check and the resolution of types agree.

## References

- SPEC_FULL.md, section 10.3, Validation: `validate_registrations` and `resolve`
-/

namespace KeyedStore

namespace Registry

/-! ## Warnings -/

/-- The warnings about registrations in turn. The first registration of a collection gives none;
every later one names the nearest of the earlier ones. -/
inductive Warned : List Registration → List LogEntry → Prop where
  /-- Nothing is registered. -/
  | nil : Warned [] []
  /-- The collection is a new one. -/
  | new {earlier : List Registration} {warnings : List LogEntry} {registration : Registration}
    (h : Warned earlier warnings)
    (hnew : ∀ other ∈ earlier, other.collection ≠ registration.collection) :
    Warned (earlier ++ [registration]) warnings
  /-- The collection has been registered before, by `owner` last. -/
  | shared {before after : List Registration} {warnings : List LogEntry}
    {owner registration : Registration} (h : Warned (before ++ owner :: after) warnings)
    (hsame : owner.collection = registration.collection)
    (hnearest : ∀ other ∈ after, other.collection ≠ registration.collection) :
    Warned (before ++ owner :: after ++ [registration])
      (warnings ++ [sharing registration.collection owner.typeName registration.typeName])

variable {earlier registrations others : List Registration} {registration : Registration}
  {warnings : List LogEntry} {owners : List (String × String)}

/-- The different collections of registrations. -/
def collections (registrations : List Registration) : Finset String :=
  (registrations.map Registration.collection).toFinset

/-- The collections of registrations are those that one of them declares. -/
theorem mem_collections {collection : String} : collection ∈ collections registrations ↔
    ∃ registration ∈ registrations, registration.collection = collection := by
  simp [collections]

/-- One more registration adds its collection. -/
theorem collections_concat (earlier : List Registration) (registration : Registration) :
    collections (earlier ++ [registration]) =
      insert registration.collection (collections earlier) := by
  ext collection
  simp only [Finset.mem_insert, mem_collections, List.mem_append, List.mem_singleton]
  grind

/-- The collections do not depend on the order of the registrations. -/
theorem collections_of_perm (h : registrations.Perm others) :
    collections registrations = collections others := by
  ext collection
  simp only [mem_collections, h.mem_iff]

/-- There is one warning for each registration but the first of each collection. -/
theorem Warned.length_add_card (h : Warned registrations warnings) :
    warnings.length + (collections registrations).card = registrations.length := by
  induction h with
  | nil => rfl
  | @new earlier warnings registration _ hnew ih =>
    -- A new collection is not warned about, a shared one is and adds none.
    have hmem : registration.collection ∉ collections earlier := by
      rintro hmem
      obtain ⟨other, hother, hsame⟩ := mem_collections.mp hmem
      exact hnew other hother hsame
    rw [collections_concat, Finset.card_insert_of_notMem hmem, List.length_append,
      List.length_singleton]
    omega
  | @shared before after warnings owner registration _ hsame _ ih =>
    have hmem : registration.collection ∈ collections (before ++ owner :: after) :=
      mem_collections.mpr ⟨owner, by simp, hsame⟩
    rw [collections_concat, Finset.insert_eq_of_mem hmem, List.length_append, List.length_append,
      List.length_singleton, List.length_singleton]
    omega

/-- Only warnings are logged on the way. -/
theorem Warned.level_eq (h : Warned registrations warnings) :
    ∀ entry ∈ warnings, entry.level = .warn := by
  induction h with
  | nil => exact List.forall_mem_nil _
  | new _ _ ih => exact ih
  | shared _ _ _ ih => exact List.forall_mem_append.mpr ⟨ih, List.forall_mem_singleton.mpr rfl⟩

/-! ## Owners -/

/-- The owner of each collection is the last of the earlier registrations that name it. -/
structure Remembers (owners : List (String × String)) (earlier : List Registration) : Prop where
  /-- A collection without an owner has not been registered. -/
  unowned : ∀ {collection}, Pairs.get? collection owners = none →
    ∀ other ∈ earlier, other.collection ≠ collection
  /-- The owner has registered the collection, and nobody has after it. -/
  owned : ∀ {collection name}, Pairs.get? collection owners = some name →
    ∃ before owner after, earlier = before ++ owner :: after ∧ owner.typeName = name ∧
      owner.collection = collection ∧ ∀ other ∈ after, other.collection ≠ collection

/-- Before the first registration nothing is remembered. -/
theorem remembers_nil : Remembers [] [] where
  unowned _ := by simp
  owned h := absurd h (by simp [Pairs.get?])

/-- A registration becomes the owner of its collection, and no other collection changes hands. -/
theorem Remembers.concat (h : Remembers owners earlier) (registration : Registration) :
    Remembers (Pairs.insert registration.collection registration.typeName owners)
      (earlier ++ [registration]) where
  unowned := by
    intro collection hget
    by_cases hsame : collection = registration.collection
    · subst hsame
      rw [Pairs.get?_insert_self] at hget
      exact absurd hget (by simp)
    · rw [Pairs.get?_insert_of_ne hsame] at hget
      exact List.forall_mem_append.mpr
        ⟨h.unowned hget, List.forall_mem_singleton.mpr (Ne.symm hsame)⟩
  owned := by
    intro collection name hget
    by_cases hsame : collection = registration.collection
    · subst hsame
      rw [Pairs.get?_insert_self, Option.some.injEq] at hget
      exact ⟨earlier, registration, [], rfl, hget, rfl, by simp⟩
    · rw [Pairs.get?_insert_of_ne hsame] at hget
      obtain ⟨before, owner, after, rfl, hname, hcollection, hafter⟩ := h.owned hget
      -- The owner stays the nearest one: what has come behind it is of another collection.
      exact ⟨before, owner, after ++ [registration], by simp, hname, hcollection,
        List.forall_mem_append.mpr ⟨hafter, List.forall_mem_singleton.mpr (Ne.symm hsame)⟩⟩

/-- What is logged about a registration is the warning about it, if there is one. -/
theorem Warned.concat (h : Warned earlier warnings) (hremembers : Remembers owners earlier)
    (registration : Registration) :
    Warned (earlier ++ [registration]) (warnings ++ warningsOf owners registration) := by
  rw [warningsOf]
  split
  · rename_i name hget
    obtain ⟨before, owner, after, rfl, rfl, hsame, hafter⟩ := hremembers.owned hget
    exact .shared h hsame hafter
  · rename_i hget
    rw [List.append_nil]
    exact .new h (hremembers.unowned hget)

/-! ## How a check ends -/

/-- How a check ends, and what it has logged by then. -/
inductive Verdict (registrations : List Registration) : Logged (Except StoreError Nat) → Prop where
  /-- All registrations keep the rules. -/
  | passed {warnings : List LogEntry}
    (hkeeps : ∀ registration ∈ registrations, registration.Keeps)
    (hwarned : Warned registrations warnings) :
    Verdict registrations
      ⟨warnings ++ [checked registrations.length], .ok registrations.length⟩
  /-- A registration breaks a rule, and those before it do not. -/
  | stopped {before after : List Registration} {registration : Registration}
    {warnings : List LogEntry} {error : StoreError}
    (heq : registrations = before ++ registration :: after)
    (hkeeps : ∀ other ∈ before, other.Keeps) (hbreaks : registration.Breaks error)
    (hwarned : Warned before warnings) :
    Verdict registrations ⟨warnings, .error error⟩

/-- How a check ends that has come to the rest of the registrations. -/
theorem verdict_checkAll (hremembers : Remembers owners earlier)
    (hkeeps : ∀ registration ∈ earlier, registration.Keeps) (hwarned : Warned earlier warnings)
    (rest : List Registration) :
    Verdict (earlier ++ rest) ⟨warnings ++ (checkAll owners earlier.length rest).entries,
      (checkAll owners earlier.length rest).value⟩ := by
  induction rest generalizing owners earlier warnings with
  | nil =>
    rw [List.append_nil]
    exact .passed hkeeps hwarned
  | cons registration rest ih =>
    rcases registration.keeps_or_breaks with hkeep | ⟨error, hbreaks⟩
    · -- The check goes on, with one registration more behind it.
      have hall : ∀ other ∈ earlier ++ [registration], other.Keeps :=
        List.forall_mem_append.mpr ⟨hkeeps, List.forall_mem_singleton.mpr hkeep⟩
      have hlater := ih (hremembers.concat registration) hall
        (hwarned.concat hremembers registration)
      rw [List.length_append, List.length_singleton, List.append_assoc, List.append_assoc] at hlater
      rw [checkAll, hkeep.check_eq]
      exact hlater
    · -- The first registration that breaks a rule has the last word.
      rw [checkAll, hbreaks.check_eq]
      refine .stopped rfl hkeeps hbreaks ?_
      rwa [List.append_nil]

/-- The verdict on registrations is what the check comes to. -/
theorem verdict_validate (registrations : List Registration) :
    Verdict registrations (validate registrations) :=
  verdict_checkAll remembers_nil (by simp) .nil registrations

/-- How many warnings have been logged. -/
def warningCount (entries : List LogEntry) : Nat :=
  entries.countP (·.level = .warn)

/-- Every logged line counts as one warning. -/
theorem Warned.warningCount_eq (h : Warned registrations warnings) :
    warningCount warnings = warnings.length :=
  List.countP_eq_length.mpr fun entry hmem => decide_eq_true (h.level_eq entry hmem)

variable {count : Nat} {error : StoreError}

/-- A check succeeds exactly if all registrations keep the rules, and counts them. -/
theorem value_eq_ok_iff : (validate registrations).value = .ok count ↔
    count = registrations.length ∧ ∀ registration ∈ registrations, registration.Keeps := by
  have hverdict := verdict_validate registrations
  generalize validate registrations = result at hverdict
  cases hverdict with
  | passed hkeeps _ =>
    exact ⟨fun h => ⟨(Except.ok.inj h).symm, hkeeps⟩, fun h => congrArg Except.ok h.1.symm⟩
  | stopped heq _ hbreaks _ =>
    subst heq
    exact ⟨fun h => absurd h (by simp), fun h => absurd (h.2 _ (by simp)) hbreaks.not_keeps⟩

/-- A check that succeeds has logged all warnings and then its count. -/
theorem entries_of_ok (h : (validate registrations).value = .ok count) :
    ∃ warnings, (validate registrations).entries = warnings ++ [checked count] ∧
      Warned registrations warnings := by
  have hverdict := verdict_validate registrations
  generalize validate registrations = result at h hverdict
  cases hverdict with
  | @passed warnings _ hwarned =>
    rw [← Except.ok.inj h]
    exact ⟨warnings, rfl, hwarned⟩
  | stopped _ _ _ _ => exact absurd h (by simp)

/-- A check that succeeds has logged one warning for each registration but the first of each
collection. -/
theorem warningCount_of_ok (h : (validate registrations).value = .ok count) :
    warningCount (validate registrations).entries + (collections registrations).card =
      registrations.length := by
  obtain ⟨warnings, hentries, hwarned⟩ := entries_of_ok h
  have hlast : warningCount [checked count] = 0 := rfl
  rw [hentries, warningCount, List.countP_append, ← warningCount, ← warningCount, hlast,
    hwarned.warningCount_eq, Nat.add_zero]
  exact hwarned.length_add_card

/-- The order of the registrations makes no difference to whether a check succeeds, nor to how many
warnings it logs then. -/
theorem validate_of_perm (h : registrations.Perm others) :
    ((validate registrations).value = .ok count ↔ (validate others).value = .ok count) ∧
    ((validate registrations).value = .ok count →
      warningCount (validate registrations).entries =
        warningCount (validate others).entries) := by
  have hvalue : (validate registrations).value = .ok count ↔
      (validate others).value = .ok count := by
    simp only [value_eq_ok_iff, h.length_eq, h.mem_iff]
  refine ⟨hvalue, fun hok => ?_⟩
  -- Both numbers of warnings lack the same number of collections to the same length.
  have hcount := warningCount_of_ok hok
  have hothers := warningCount_of_ok (hvalue.mp hok)
  rw [collections_of_perm h, h.length_eq] at hcount
  omega

/-- A check that fails has come to the first registration that breaks a rule. -/
theorem stopped_of_error (h : (validate registrations).value = .error error) :
    ∃ before registration after, registrations = before ++ registration :: after ∧
      (∀ other ∈ before, other.Keeps) ∧ registration.Breaks error ∧
      Warned before (validate registrations).entries := by
  have hverdict := verdict_validate registrations
  generalize validate registrations = result at h hverdict
  cases hverdict with
  | passed _ _ => exact absurd h (by simp)
  | stopped heq hkeeps hbreaks hwarned =>
    rw [← Except.error.inj h]
    exact ⟨_, _, _, heq, hkeeps, hbreaks, hwarned⟩

end Registry

/-! ## Types that are resolved one by one -/

namespace Declaration

variable {declaration : Declaration}

/-- A type is resolved exactly if its registration keeps the rules, as whatever it is written. -/
theorem exists_resolve_iff (written : String) :
    (∃ metadata, declaration.resolve = .ok metadata) ↔ (declaration.register written).Keeps := by
  constructor
  · rintro ⟨metadata, h⟩
    rcases (declaration.register declaration.typeName).keeps_or_breaks with
      hkeeps | ⟨error, hbreaks⟩
    · exact ⟨hkeeps.collection, hkeeps.keyField⟩
    · exact absurd (h.symm.trans (resolve_eq_error_iff.mpr hbreaks.check_eq)) (by simp)
  · intro hkeeps
    -- The rules do not look at how the type is written.
    have hshort : (declaration.register declaration.typeName).Keeps :=
      ⟨hkeeps.collection, hkeeps.keyField⟩
    have hcheck : declaration.check = .ok () := hshort.check_eq
    exact ⟨_, by rw [resolve, hcheck]; rfl⟩

end Declaration

namespace MetadataCache

variable {τ : Type} [DecidableEq τ] {declares : τ → Declaration} {cache : MetadataCache τ}

/-- The cache after types have been resolved in turn. -/
def resolveAll (declares : τ → Declaration) (types : List τ) : MetadataCache τ :=
  types.foldl (fun cache type => (resolve declares type cache).2) []

/-- What is kept under a type describes it. -/
def Describes (declares : τ → Declaration) (cache : MetadataCache τ) : Prop :=
  ∀ type metadata, Pairs.get? type cache = some metadata →
    (declares type).resolve = .ok metadata

/-- In a cache that describes its types, a type is resolved to what its declaration says. -/
theorem Describes.resolve_eq (h : Describes declares cache) (type : τ) :
    (resolve declares type cache).1 = (declares type).resolve := by
  cases hget : Pairs.get? type cache with
  | some kept =>
    rw [h type kept hget]
    simp [resolve, hget]
  | none =>
    cases hresolve : (declares type).resolve <;>
      simp [resolve, EntryCache.keep, hget, hresolve]

/-- Resolving a type keeps nothing that does not describe it. -/
theorem Describes.step (h : Describes declares cache) (type : τ) :
    Describes declares (resolve declares type cache).2 := by
  cases hget : Pairs.get? type cache with
  | some kept => simpa [resolve, hget] using h
  | none =>
    cases hresolve : (declares type).resolve with
    | error error => simpa [resolve, hget, hresolve] using h
    | ok metadata =>
      have hcache : (resolve declares type cache).2 = cache ++ [(type, metadata)] := by
        simp [resolve, EntryCache.keep, hget, hresolve]
      rw [hcache]
      intro other found hfound
      rw [Pairs.get?_append, Option.or_eq_some_iff] at hfound
      -- The one new entry is the description that has just been made.
      rcases hfound with hfound | ⟨-, hfound⟩
      · exact h other found hfound
      · have hmem := Pairs.mem_of_get?_eq_some hfound
        rw [List.mem_singleton, Prod.mk.injEq] at hmem
        rw [hmem.1, hmem.2, hresolve]

/-- A cache that types have been resolved with describes them as their declarations do. -/
theorem describes_resolveAll (declares : τ → Declaration) (types : List τ) :
    Describes declares (resolveAll declares types) := by
  suffices hall : ∀ cache, Describes declares cache →
      Describes declares (types.foldl (fun cache type => (resolve declares type cache).2) cache) by
    exact hall [] fun type metadata h => absurd h (by simp [Pairs.get?])
  induction types with
  | nil => exact fun cache h => h
  | cons type types ih => exact fun cache h => ih _ (h.step type)

/-- Whatever has been resolved before, a type is resolved to what its declaration says. -/
theorem resolve_resolveAll (declares : τ → Declaration) (earlier : List τ) (type : τ) :
    (resolve declares type (resolveAll declares earlier)).1 = (declares type).resolve :=
  (describes_resolveAll declares earlier).resolve_eq type

end MetadataCache

/-! ## Both ways together -/

namespace Registry

variable {τ : Type} [DecidableEq τ]

/-- The registrations of types in turn, each under the name that its declaration writes. -/
def registrationsOf (written : τ → String) (declares : τ → Declaration) (types : List τ) :
    List Registration :=
  types.map fun type => (declares type).register (written type)

/-- The check of types in turn. -/
abbrev validateTypes (written : τ → String) (declares : τ → Declaration) (types : List τ) :
    Logged (Except StoreError Nat) :=
  validate (registrationsOf written declares types)

/-- A type is resolved when it is asked for, after other types have been. -/
def Resolves (declares : τ → Declaration) (earlier : List τ) (type : τ) : Prop :=
  ∃ metadata, (MetadataCache.resolve declares type
    (MetadataCache.resolveAll declares earlier)).1 = .ok metadata

/-- What the check of all registrations and the resolution of single types agree on. -/
structure Agrees (written : τ → String) (declares : τ → Declaration) (earlier types : List τ) :
    Prop where
  /-- The check succeeds, with the number of types, exactly if every type is resolved. -/
  succeeds_iff : ∀ {count}, (validateTypes written declares types).value = .ok count ↔
    count = types.length ∧ ∀ type ∈ types, Resolves declares earlier type
  /-- A check that fails has come to the first type that is not resolved, with a configuration error
  for the first rule that it breaks. It has warned of the types before this one. The resolution
  fails with the same error if the declaration writes the short name of the type. -/
  fails : ∀ {error}, (validateTypes written declares types).value = .error error →
    error.isConfiguration = true ∧ ∃ before type after, types = before ++ type :: after ∧
      (∀ other ∈ before, Resolves declares earlier other) ∧ ¬ Resolves declares earlier type ∧
      ((declares type).register (written type)).Breaks error ∧
      Warned (registrationsOf written declares before)
        (validateTypes written declares types).entries ∧
      (written type = (declares type).typeName → (MetadataCache.resolve declares type
        (MetadataCache.resolveAll declares earlier)).1 = .error error)
  /-- A check that succeeds has warned of all types, once for each but the first of each
  collection, and then told their number. -/
  warns : ∀ {count}, (validateTypes written declares types).value = .ok count →
    (∃ warnings, (validateTypes written declares types).entries =
        warnings ++ [checked count] ∧
      Warned (registrationsOf written declares types) warnings) ∧
    warningCount (validateTypes written declares types).entries +
      (collections (registrationsOf written declares types)).card = types.length
  /-- In another order the check succeeds as well, with the same number and as many warnings. -/
  reordered : ∀ {others}, types.Perm others → ∀ {count},
    ((validateTypes written declares types).value = .ok count ↔
      (validateTypes written declares others).value = .ok count) ∧
    ((validateTypes written declares types).value = .ok count →
      warningCount (validateTypes written declares types).entries =
        warningCount (validateTypes written declares others).entries)

/-- A type is resolved exactly if its registration keeps the rules. -/
theorem resolves_iff (written : τ → String) (declares : τ → Declaration) (earlier : List τ)
    (type : τ) : Resolves declares earlier type ↔
      ((declares type).register (written type)).Keeps := by
  rw [Resolves, MetadataCache.resolve_resolveAll]
  exact Declaration.exists_resolve_iff (written type)

/-- The check of all registrations agrees with the resolution of single types, whatever has been
resolved before, for all types in every order. -/
theorem validate_agrees (written : τ → String) (declares : τ → Declaration)
    (earlier types : List τ) : Agrees written declares earlier types where
  succeeds_iff := by
    intro count
    simp only [value_eq_ok_iff, registrationsOf, List.length_map, List.forall_mem_map,
      resolves_iff written]
  fails := by
    intro error herror
    -- The registration that ends the check is that of a type, with other types before it.
    obtain ⟨before, registration, after, heq, hkeeps, hbreaks, hwarned⟩ := stopped_of_error herror
    obtain ⟨before, rest, rfl, rfl, hrest⟩ := List.map_eq_append_iff.mp heq
    obtain ⟨type, after, rfl, rfl, -⟩ := List.map_eq_cons_iff.mp hrest
    refine ⟨hbreaks.isConfiguration, before, type, after, rfl, fun other hmem => ?_, ?_, hbreaks,
      hwarned, fun hshort => ?_⟩
    · exact (resolves_iff written declares earlier other).mpr (hkeeps _ (List.mem_map_of_mem hmem))
    · exact fun h => hbreaks.not_keeps ((resolves_iff written declares earlier type).mp h)
    · rw [hshort] at hbreaks
      rw [MetadataCache.resolve_resolveAll]
      exact Declaration.resolve_eq_error_iff.mpr hbreaks.check_eq
  warns := by
    intro count hok
    refine ⟨entries_of_ok hok, ?_⟩
    rw [warningCount_of_ok hok, registrationsOf, List.length_map]
  reordered h := validate_of_perm (h.map _)

/-- Three types of one collection and another type between them, from the last to the first: both
warnings are about the nearest earlier owner, not the first one. -/
theorem validate_agrees_shared :
    let types : List Declaration := [⟨"game::Board", "boards", "id"⟩,
      ⟨"game::Score", "boards", "id"⟩, ⟨"game::Player", "players", "name"⟩,
      ⟨"game::Rank", "boards", "rank"⟩]
    let result := validateTypes Declaration.typeName id types.reverse
    types.Perm types.reverse ∧ result.value = .ok 4 ∧ warningCount result.entries = 2 ∧
      result.entries = [sharing "boards" "Rank" "Score", sharing "boards" "Score" "Board",
        checked 4] := by
  intro types result
  have hperm : types.Perm types.reverse := types.reverse_perm.symm
  have hvalue : (validateTypes Declaration.typeName id types).value = .ok 4 := by rfl
  obtain ⟨hreversed, hcount⟩ := (validate_agrees Declaration.typeName id [] types).reordered hperm
  exact ⟨hperm, hreversed.mp hvalue, (hcount hvalue).symm, by rfl⟩

end Registry

end KeyedStore
