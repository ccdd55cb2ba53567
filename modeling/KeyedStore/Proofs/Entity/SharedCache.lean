import KeyedStore.Entity.MetadataCache
import KeyedStore.Proofs.Codec.Encoding
import KeyedStore.Proofs.Pairs
import Mathlib.Data.Finset.Card
import Mathlib.Data.List.Induction
import Mathlib.Logic.Function.Basic

/-!
# Callers of one cache

Callers resolve types at the same time, and nothing keeps two of them from looking up the same type
in vain and describing it both. Each of them makes an entry of its own then, and only the first one
is ever kept: the cache only grows, and what a caller is given is always what stands in the cache
under its type.

- `EntryCache.Steps`: what a step of a caller can be;
- `Resolvers.turns`: callers after a schedule, each making entries that bear its mark;
- `Resolvers.Coherent`: what every step preserves;
- `turns_alone`: a caller that nobody interrupts;
- `turns_agreed`: what is true after every schedule.

## References

- SPEC_FULL.md, section 4.1, concurrent resolution; section 10.3, the first insert wins
-/

namespace KeyedStore

/-! ## Steps -/

namespace EntryCache

variable {τ ε : Type} [DecidableEq τ] {describe : τ → Except StoreError ε} {type : τ}
  {cache grown : EntryCache τ ε} {caller after : Caller ε}

/-- What a step of a caller can be: how far the caller has come before and after it, and what the
cache holds after it. -/
inductive Steps (describe : τ → Except StoreError ε) (type : τ) (cache : EntryCache τ ε) :
    Caller ε → Caller ε → EntryCache τ ε → Prop where
  /-- The look-up finds an entry. -/
  | found {kept : ε} (h : Pairs.get? type cache = some kept) :
    Steps describe type cache .asking (.answered (.ok kept)) cache
  /-- The look-up finds nothing. -/
  | missed (h : Pairs.get? type cache = none) :
    Steps describe type cache .asking .describing cache
  /-- The type keeps the rules. -/
  | described {entry : ε} (h : describe type = .ok entry) :
    Steps describe type cache .describing (.keeping entry) cache
  /-- The type breaks a rule. -/
  | refused {error : StoreError} (h : describe type = .error error) :
    Steps describe type cache .describing (.answered (.error error)) cache
  /-- Another caller has been faster. -/
  | beaten {entry kept : ε} (h : Pairs.get? type cache = some kept) :
    Steps describe type cache (.keeping entry) (.answered (.ok kept)) cache
  /-- The entry is the first one. -/
  | first {entry : ε} (h : Pairs.get? type cache = none) :
    Steps describe type cache (.keeping entry) (.answered (.ok entry)) (cache ++ [(type, entry)])
  /-- There is nothing left to do. -/
  | idle {answer : Except StoreError ε} :
    Steps describe type cache (.answered answer) (.answered answer) cache

/-- What a step does is one of the things that a step can be. -/
theorem steps_step (describe : τ → Except StoreError ε) (type : τ) (caller : Caller ε)
    (cache : EntryCache τ ε) :
    Steps describe type cache caller (step describe type caller cache).1
      (step describe type caller cache).2 := by
  cases caller with
  | asking =>
    rw [step]
    split
    · exact .found ‹_›
    · exact .missed ‹_›
  | describing =>
    rw [step]
    split
    · exact .described ‹_›
    · exact .refused ‹_›
  | keeping entry =>
    -- Another caller may have been faster in the meantime.
    cases hget : Pairs.get? type cache with
    | some kept =>
      simp only [step, keep, hget]
      exact .beaten hget
    | none =>
      simp only [step, keep, hget]
      exact .first hget
  | answered answer => exact .idle

namespace Steps

/-- An entry stays where it is. -/
theorem get?_mono (h : Steps describe type cache caller after grown) {other : τ} {entry : ε}
    (hget : Pairs.get? other cache = some entry) : Pairs.get? other grown = some entry := by
  cases h with
  | found _ | missed _ | described _ | refused _ | beaten _ | idle => exact hget
  | first _ => rw [Pairs.get?_append, hget, Option.some_or]

/-- An entry that has not been there before is the one that the caller has had in hand. -/
theorem get?_cases (h : Steps describe type cache caller after grown) {other : τ} {entry : ε}
    (hget : Pairs.get? other grown = some entry) :
    Pairs.get? other cache = some entry ∨
      other = type ∧ caller = .keeping entry ∧ after = .answered (.ok entry) := by
  cases h with
  | found _ | missed _ | described _ | refused _ | beaten _ | idle => exact .inl hget
  | @first made hnone =>
    -- Only the first entry of a type makes the cache grow.
    rw [Pairs.get?_append, Option.or_eq_some_iff] at hget
    rcases hget with hold | ⟨-, hnew⟩
    · exact .inl hold
    · have hmem := Pairs.mem_of_get?_eq_some hnew
      rw [List.mem_singleton, Prod.mk.injEq] at hmem
      obtain ⟨rfl, rfl⟩ := hmem
      exact .inr ⟨rfl, rfl, rfl⟩

/-- A step never puts a type into the cache twice. -/
theorem distinct (h : Steps describe type cache caller after grown)
    (hdistinct : Pairs.Distinct cache) : Pairs.Distinct grown := by
  cases h with
  | found _ | missed _ | described _ | refused _ | beaten _ | idle => exact hdistinct
  | @first entry hnone =>
    rw [← Pairs.insert_eq_append (Pairs.get?_eq_none_iff.mp hnone) entry]
    exact hdistinct.insert type entry

/-- An answer is not taken back. -/
theorem eq_of_answered {answer : Except StoreError ε}
    (h : Steps describe type cache (.answered answer) after grown) : after = .answered answer := by
  cases h
  rfl

end Steps

/-- The number of steps that a caller has left at most. -/
def Caller.left : Caller ε → Nat
  | .asking => 3
  | .describing => 2
  | .keeping _ => 1
  | .answered _ => 0

/-- A caller who has no step left has an answer. -/
theorem Caller.exists_answer {caller : Caller ε} (h : caller.left = 0) :
    ∃ answer, caller = .answered answer := by
  cases caller with
  | asking | describing | keeping _ => exact absurd h (by simp [left])
  | answered answer => exact ⟨answer, rfl⟩

/-- Every step brings a caller nearer to its answer. -/
theorem Steps.left_le (h : Steps describe type cache caller after grown) :
    after.left ≤ caller.left - 1 := by
  cases h <;> simp [Caller.left]

end EntryCache

open EntryCache

/-! ## Entries that can be told apart -/

/-- A description with the mark of the caller that has made it. Descriptions that two callers have
made of one type differ in nothing but the mark. -/
structure MarkedMetadata (ι : Type) where
  /-- The description. -/
  metadata : Metadata
  /-- The caller that has made it. -/
  maker : ι

namespace Resolvers

section Entries

variable {ι τ : Type} [DecidableEq τ] {declares : τ → Declaration} {i : ι} {type : τ}
  {cache grown : EntryCache τ (MarkedMetadata ι)} {caller after : Caller (MarkedMetadata ι)}

/-- The description of a type, made by a caller. -/
def describe (declares : τ → Declaration) (i : ι) (type : τ) :
    Except StoreError (MarkedMetadata ι) :=
  (declares type).resolve.map fun metadata => ⟨metadata, i⟩

/-- What is true of a caller of a type: a description in hand is that of the type, an entry that has
been given is the one in the cache, and an error is that of the type. -/
def Truthful (declares : τ → Declaration) (type : τ) (cache : EntryCache τ (MarkedMetadata ι)) :
    Caller (MarkedMetadata ι) → Prop
  | .asking | .describing => True
  | .keeping entry => (declares type).resolve = .ok entry.metadata
  | .answered (.ok entry) => Pairs.get? type cache = some entry
  | .answered (.error error) => (declares type).resolve = .error error

omit [DecidableEq τ] in
/-- A description that is made is that of the declaration, with a mark. -/
theorem describe_eq_ok {entry : MarkedMetadata ι} (h : describe declares i type = .ok entry) :
    (declares type).resolve = .ok entry.metadata := by
  rw [describe] at h
  cases hresolve : (declares type).resolve with
  | error error =>
    rw [hresolve] at h
    exact absurd h (by simp [Except.map])
  | ok metadata =>
    rw [hresolve] at h
    rw [← Except.ok.inj h]

omit [DecidableEq τ] in
/-- A description that fails does so with the error of the declaration. -/
theorem describe_eq_error {error : StoreError} (h : describe declares i type = .error error) :
    (declares type).resolve = .error error := by
  rw [describe] at h
  cases hresolve : (declares type).resolve with
  | error other =>
    rw [hresolve] at h
    rw [Except.error.inj h]
  | ok metadata =>
    rw [hresolve] at h
    exact absurd h (by simp [Except.map])

/-- A step is made on what is true, and what it comes to is true. -/
theorem Truthful.step (h : Truthful declares type cache caller)
    (hsteps : Steps (describe declares i) type cache caller after grown) :
    Truthful declares type grown after := by
  cases hsteps with
  | found hget | beaten hget => exact hget
  | missed _ => trivial
  | described hdescribe => exact describe_eq_ok hdescribe
  | refused hdescribe => exact describe_eq_error hdescribe
  | first hnone =>
    change Pairs.get? type _ = some _
    rw [Pairs.get?_append, hnone, Option.none_or, Pairs.get?, if_pos rfl]
  | idle => exact h

/-- A cache that has grown contradicts nobody. -/
theorem Truthful.mono (h : Truthful declares type cache caller)
    (hmono : ∀ {entry}, Pairs.get? type cache = some entry → Pairs.get? type grown = some entry) :
    Truthful declares type grown caller := by
  cases caller with
  | asking | describing => trivial
  | keeping entry => exact h
  | answered answer =>
    cases answer with
    | ok entry => exact hmono h
    | error error => exact h

end Entries

end Resolvers

/-! ## Callers -/

/-- Callers of one cache. -/
structure Resolvers (ι τ : Type) where
  /-- How far each caller has come. -/
  caller : ι → Caller (MarkedMetadata ι)
  /-- The cache. -/
  cache : EntryCache τ (MarkedMetadata ι)

namespace Resolvers

variable {ι τ : Type} [DecidableEq ι] [DecidableEq τ] (declares : τ → Declaration) (asks : ι → τ)

/-- No caller has looked anything up, and the cache is empty. -/
def start : Resolvers ι τ :=
  ⟨fun _ => .asking, []⟩

/-- A caller takes a step. -/
def turn (now : Resolvers ι τ) (i : ι) : Resolvers ι τ :=
  let next := step (describe declares i) (asks i) (now.caller i) now.cache
  ⟨Function.update now.caller i next.1, next.2⟩

/-- Callers take steps in the order of a schedule. -/
def turns (now : Resolvers ι τ) (schedule : List ι) : Resolvers ι τ :=
  schedule.foldl (turn declares asks) now

/-- What becomes of the caller whose turn it is, and of the cache. -/
theorem steps_turn (now : Resolvers ι τ) (i : ι) :
    Steps (describe declares i) (asks i) now.cache (now.caller i)
      ((now.turn declares asks i).caller i) (now.turn declares asks i).cache := by
  have hself : (now.turn declares asks i).caller i =
      (step (describe declares i) (asks i) (now.caller i) now.cache).1 := Function.update_self ..
  rw [hself]
  exact steps_step ..

theorem caller_turn_of_ne (now : Resolvers ι τ) {i j : ι} (h : j ≠ i) :
    (now.turn declares asks i).caller j = now.caller j :=
  Function.update_of_ne h ..

theorem turns_append (now : Resolvers ι τ) (first second : List ι) :
    now.turns declares asks (first ++ second) =
      (now.turns declares asks first).turns declares asks second :=
  List.foldl_append

variable {declares asks} {now : Resolvers ι τ} {i : ι}

/-! ## What lasts -/

/-- An entry stays where it is, whoever takes steps. -/
theorem get?_turns {type : τ} {entry : MarkedMetadata ι}
    (h : Pairs.get? type now.cache = some entry) (schedule : List ι) :
    Pairs.get? type (now.turns declares asks schedule).cache = some entry := by
  induction schedule generalizing now with
  | nil => exact h
  | cons i schedule ih => exact ih ((steps_turn declares asks now i).get?_mono h)

/-- An answer is not taken back, whoever takes a step. -/
theorem caller_turn_of_answered {answer : Except StoreError (MarkedMetadata ι)}
    (h : now.caller i = .answered answer) (j : ι) :
    (now.turn declares asks j).caller i = .answered answer := by
  by_cases hij : i = j
  · subst hij
    have hsteps := steps_turn declares asks now i
    rw [h] at hsteps
    exact hsteps.eq_of_answered
  · exact (caller_turn_of_ne declares asks now hij).trans h

/-- Every step of its own takes a caller nearer to its answer. -/
theorem left_turns_le (declares : τ → Declaration) (asks : ι → τ) (now : Resolvers ι τ)
    (schedule : List ι) (i : ι) :
    ((now.turns declares asks schedule).caller i).left ≤
      (now.caller i).left - schedule.count i := by
  induction schedule generalizing now with
  | nil => exact Nat.le_refl _
  | cons j schedule ih =>
    have hrest := ih (now.turn declares asks j)
    -- The steps of others neither help a caller nor hold it up.
    by_cases hij : i = j
    · subst hij
      have hleft := (steps_turn declares asks now i).left_le
      rw [List.count_cons_self]
      exact hrest.trans (by omega)
    · rw [caller_turn_of_ne declares asks now hij] at hrest
      rw [List.count_cons_of_ne (Ne.symm hij)]
      exact hrest

/-! ## What every step preserves -/

/-- What is true of the callers and of the cache that they share. -/
structure Coherent (declares : τ → Declaration) (asks : ι → τ) (now : Resolvers ι τ) : Prop where
  /-- No type has two entries. -/
  distinct : Pairs.Distinct now.cache
  /-- An entry describes its type. -/
  described : ∀ {type entry}, Pairs.get? type now.cache = some entry →
    (declares type).resolve = .ok entry.metadata
  /-- An entry has been given to a caller. -/
  given : ∀ {type entry}, Pairs.get? type now.cache = some entry →
    ∃ i, asks i = type ∧ now.caller i = .answered (.ok entry)
  /-- No caller is told what is not true. -/
  truthful : ∀ i, Truthful declares (asks i) now.cache (now.caller i)

omit [DecidableEq ι] in
/-- Before the first step everything fits. -/
theorem coherent_start : Coherent declares asks (start : Resolvers ι τ) where
  distinct := List.nodup_nil
  described h := absurd h (by simp [start, Pairs.get?])
  given h := absurd h (by simp [start, Pairs.get?])
  truthful _ := trivial

omit [DecidableEq ι] in
/-- An entry that a caller has been given is the one in the cache. -/
theorem Coherent.cached (h : Coherent declares asks now) {entry : MarkedMetadata ι}
    (hanswer : now.caller i = .answered (.ok entry)) :
    Pairs.get? (asks i) now.cache = some entry := by
  have htruthful := h.truthful i
  rw [hanswer] at htruthful
  exact htruthful

omit [DecidableEq ι] in
/-- An error that a caller has been given is that of its type. -/
theorem Coherent.refused (h : Coherent declares asks now) {error : StoreError}
    (hanswer : now.caller i = .answered (.error error)) :
    (declares (asks i)).resolve = .error error := by
  have htruthful := h.truthful i
  rw [hanswer] at htruthful
  exact htruthful

/-- A step keeps the callers and the cache coherent. -/
theorem Coherent.turn (h : Coherent declares asks now) (i : ι) :
    Coherent declares asks (now.turn declares asks i) where
  distinct := (steps_turn declares asks now i).distinct h.distinct
  described := by
    intro type entry hget
    rcases (steps_turn declares asks now i).get?_cases hget with hold | ⟨rfl, hcaller, -⟩
    · exact h.described hold
    · -- A new entry is the description that the caller has had in hand.
      have htruthful := h.truthful i
      rw [hcaller] at htruthful
      exact htruthful
  given := by
    intro type entry hget
    rcases (steps_turn declares asks now i).get?_cases hget with hold | ⟨rfl, -, hanswer⟩
    · obtain ⟨j, rfl, hanswer⟩ := h.given hold
      exact ⟨j, rfl, caller_turn_of_answered hanswer i⟩
    · exact ⟨i, rfl, hanswer⟩
  truthful := by
    intro j
    by_cases hji : j = i
    · subst hji
      exact (h.truthful j).step (steps_turn declares asks now j)
    · rw [caller_turn_of_ne declares asks now hji]
      exact (h.truthful j).mono (steps_turn declares asks now i).get?_mono

/-- Whatever the schedule, everything fits in the end. -/
theorem Coherent.turns (h : Coherent declares asks now) (schedule : List ι) :
    Coherent declares asks (now.turns declares asks schedule) := by
  induction schedule generalizing now with
  | nil => exact h
  | cons i schedule ih => exact ih (h.turn i)

/-! ## What the callers agree on -/

/-- What the callers of one cache agree on, also with what will be true later. -/
structure Agreed (declares : τ → Declaration) (asks : ι → τ) (now : Resolvers ι τ) : Prop where
  /-- An entry describes its type, and stays where it is. -/
  kept : ∀ {type entry}, Pairs.get? type now.cache = some entry →
    (declares type).resolve = .ok entry.metadata ∧
      ∀ later, Pairs.get? type (now.turns declares asks later).cache = some entry
  /-- All callers of a type are given one and the same entry, whoever has made it, also those who
  are given it later. -/
  same : ∀ {i j first second} (later : List ι), asks i = asks j →
    now.caller i = .answered (.ok first) →
    (now.turns declares asks later).caller j = .answered (.ok second) → first = second
  /-- A type that keeps the rules is never refused. -/
  valid : ∀ {i answer}, (declares (asks i)).check = .ok () → now.caller i = .answered answer →
    ∃ entry, answer = .ok entry
  /-- A type that breaks a rule has no entry, and every caller is given the same configuration
  error. -/
  invalid : ∀ {type error}, (declares type).check = .error error →
    error.isConfiguration = true ∧ Pairs.get? type now.cache = none ∧
      ∀ {i answer}, asks i = type → now.caller i = .answered answer → answer = .error error
  /-- The cache has as many entries as types have been resolved. -/
  size : ∃ types : Finset τ,
    (∀ type, type ∈ types ↔ ∃ i entry, asks i = type ∧ now.caller i = .answered (.ok entry)) ∧
      now.cache.size = types.card

/-- Where everything fits, callers agree with the cache and with each other. -/
theorem Coherent.agreed (h : Coherent declares asks now) : Agreed declares asks now where
  kept hget := ⟨h.described hget, get?_turns hget⟩
  same := by
    intro i j first second later hasks hfirst hsecond
    have hlater := (h.turns later).cached hsecond
    -- The entry of the first caller is still there when the second one is given its own.
    rw [← hasks, get?_turns (h.cached hfirst) later] at hlater
    exact Option.some.inj hlater
  valid := by
    intro i answer hcheck hanswer
    cases answer with
    | ok entry => exact ⟨entry, rfl⟩
    | error error =>
      have herror := Declaration.resolve_eq_error_iff.mp (h.refused hanswer)
      exact absurd (hcheck.symm.trans herror) (by simp)
  invalid := by
    intro type error hcheck
    have hresolve := Declaration.resolve_eq_error_iff.mpr hcheck
    have hnone : Pairs.get? type now.cache = none := by
      rw [Option.eq_none_iff_forall_ne_some]
      intro entry hget
      exact absurd (hresolve.symm.trans (h.described hget)) (by simp)
    refine ⟨Declaration.isConfiguration_of_resolve hresolve, hnone, ?_⟩
    rintro i answer rfl hanswer
    cases answer with
    | ok entry => exact absurd (hnone.symm.trans (h.cached hanswer)) (by simp)
    | error other => rw [Except.error.inj ((h.refused hanswer).symm.trans hresolve)]
  size := by
    obtain ⟨types, htypes, hcard⟩ := Pairs.exists_length_eq h.distinct
    refine ⟨types, fun type => ?_, hcard⟩
    rw [htypes]
    constructor
    · rintro ⟨entry, hget⟩
      obtain ⟨i, hasks, hanswer⟩ := h.given hget
      exact ⟨i, entry, hasks, hanswer⟩
    · rintro ⟨i, entry, rfl, hanswer⟩
      exact ⟨entry, h.cached hanswer⟩

/-! ## A caller that is let alone -/

/-- The descriptions that are kept, without the marks. -/
def plain (cache : EntryCache τ (MarkedMetadata ι)) : MetadataCache τ :=
  cache.map fun pair => (pair.1, pair.2.metadata)

omit [DecidableEq ι] in
/-- Without the marks the cache has the same description under every type. -/
theorem get?_plain (type : τ) (cache : EntryCache τ (MarkedMetadata ι)) :
    Pairs.get? type (plain cache) = (Pairs.get? type cache).map MarkedMetadata.metadata := by
  induction cache with
  | nil => rfl
  | cons pair cache ih =>
    rw [plain, List.map_cons, ← plain, Pairs.get?, Pairs.get?, ih]
    split <;> rfl

/-- A caller that takes its three steps without a break resolves its type. -/
theorem turns_alone (declares : τ → Declaration) (asks : ι → τ) {now : Resolvers ι τ} {i : ι}
    (h : now.caller i = .asking) : ∃ answer,
    (now.turns declares asks [i, i, i]).caller i = .answered answer ∧
      MetadataCache.resolve declares (asks i) (plain now.cache) =
        (answer.map MarkedMetadata.metadata,
          plain (now.turns declares asks [i, i, i]).cache) := by
  have hplain := get?_plain (asks i) now.cache
  cases hget : Pairs.get? (asks i) now.cache with
  | some kept =>
    -- The caller has its answer at once, and what is left of its turns is idle.
    rw [hget] at hplain
    refine ⟨.ok kept, ?_, ?_⟩
    · simp [turns, turn, step, h, hget]
    · simp [turns, turn, step, h, hget, MetadataCache.resolve, hplain, Except.map]
  | none =>
    rw [hget] at hplain
    cases hresolve : (declares (asks i)).resolve with
    | error error =>
      refine ⟨.error error, ?_, ?_⟩
      · simp [turns, turn, step, h, hget, describe, hresolve, Except.map]
      · simp [turns, turn, step, h, hget, describe, hresolve, MetadataCache.resolve, hplain,
          Except.map]
    | ok metadata =>
      -- Nobody has kept an entry since the look-up, so this one is the first.
      refine ⟨.ok ⟨metadata, i⟩, ?_, ?_⟩
      · simp [turns, turn, step, keep, h, hget, describe, hresolve, Except.map]
      · rw [plain] at hplain
        simp [turns, turn, step, keep, h, hget, describe, hresolve, MetadataCache.resolve, hplain,
          Except.map, plain]

/-! ## Every schedule -/

/-- Whatever the schedule, callers of one cache that has been empty agree: entries describe their
types and last, all callers of a type are given one and the same entry, a type that breaks a rule is
refused every time with the same error, and the cache has as many entries as types have been
resolved. Every caller has its answer after three steps of its own, and if nobody takes a step
between them it has done what one that is alone does. -/
theorem turns_agreed (declares : τ → Declaration) (asks : ι → τ) (schedule : List ι) :
    Agreed declares asks (start.turns declares asks schedule) ∧
      (∀ i, 3 ≤ schedule.count i →
        ∃ answer, (start.turns declares asks schedule).caller i = .answered answer) ∧
      ∀ i, (start.turns declares asks schedule).caller i = .asking → ∃ answer,
        (start.turns declares asks (schedule ++ [i, i, i])).caller i = .answered answer ∧
          MetadataCache.resolve declares (asks i)
              (plain (start.turns declares asks schedule).cache) =
            (answer.map MarkedMetadata.metadata,
              plain (start.turns declares asks (schedule ++ [i, i, i])).cache) := by
  refine ⟨(coherent_start.turns schedule).agreed, fun i hcount => ?_, fun i hasking => ?_⟩
  · have hleft := left_turns_le declares asks start schedule i
    have hstart : ((start : Resolvers ι τ).caller i).left = 3 := rfl
    exact Caller.exists_answer (by omega)
  · rw [turns_append]
    exact turns_alone declares asks hasking

/-- Two callers look one type up in vain, and the one that has described it first is slower to keep
what it has made. A third caller asks for a type that breaks a rule. -/
theorem turns_agreed_race :
    let boards : Declaration := ⟨"game::Board", "boards", "id"⟩
    let broken : Declaration := ⟨"game::Broken", "bro$ken", "id"⟩
    let asks (i : Fin 3) : Declaration := if i = 2 then broken else boards
    let now := start.turns id asks [0, 1, 0, 1, 1, 2, 0, 2, 2]
    (∃ entry, now.caller 0 = .answered (.ok entry) ∧ now.caller 1 = .answered (.ok entry)) ∧
      now.caller 2 = .answered (.error (.invalidCollection "Broken" "bro$ken")) := by
  intro boards broken asks now
  have hvalid : (id boards).check = .ok () := by
    show (⟨"game::Board", "boards", "id"⟩ : Declaration).check = .ok ()
    rfl
  have hinvalid : (id broken).check = .error (.invalidCollection "Broken" "bro$ken") := by
    show (⟨"game::Broken", "bro$ken", "id"⟩ : Declaration).check = _
    rfl
  -- The schedule gives each of the three callers its three steps.
  have hturns : Agreed id asks now ∧ ∀ i, 3 ≤ List.count i [0, 1, 0, 1, 1, 2, 0, 2, 2] →
      ∃ answer, now.caller i = .answered answer :=
    ⟨(turns_agreed id asks _).1, (turns_agreed id asks _).2.1⟩
  clear_value now
  obtain ⟨hagreed, hanswers⟩ := hturns
  obtain ⟨first, hfirst⟩ := hanswers 0 (by decide)
  obtain ⟨second, hsecond⟩ := hanswers 1 (by decide)
  obtain ⟨third, hthird⟩ := hanswers 2 (by decide)
  have hzero : asks 0 = boards := if_neg (by decide)
  have hone : asks 1 = boards := if_neg (by decide)
  have htwo : asks 2 = broken := if_pos rfl
  rw [← hzero] at hvalid
  obtain ⟨entry, rfl⟩ := hagreed.valid hvalid hfirst
  rw [hzero, ← hone] at hvalid
  obtain ⟨other, rfl⟩ := hagreed.valid hvalid hsecond
  rw [← hagreed.same [] (hzero.trans hone.symm) hfirst hsecond] at hsecond
  rw [(hagreed.invalid hinvalid).2.2 htwo hthird] at hthird
  exact ⟨⟨entry, hfirst, hsecond⟩, hthird⟩

end Resolvers

end KeyedStore
