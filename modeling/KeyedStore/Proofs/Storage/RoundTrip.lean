import KeyedStore.Proofs.Codec.Lossless
import KeyedStore.Proofs.Storage.Frame

/-!
# What is stored is loaded

A lossless entity that is stored in memory is loaded again, equal in every field, whatever happens
to other slots in between and whatever the options of the codec are at either end.

- `Kind.run_roundTrip`: an entity whose document is decoded is loaded;
- `Lossless.roundTrips`: storing and loading a lossless entity;
- `RecordsRoundTrip`, `records_roundTrip`: the kinds of the program whose entities are lossless.

## References

- SPEC_FULL.md, section 8, Round trip
-/

namespace KeyedStore

open Memory

variable {α : Type}

/-- On an open backend an entity with a document is stored, and after any calls that spare its slot
whatever the document is decoded to is loaded. Nothing is reported at either end. -/
theorem Kind.run_roundTrip {kind : Kind α} {metadata : Metadata} {start : Service Memory}
    {entity loaded : α} {key : String} {document : Document}
    (hresolve : kind.declaration.resolve = .ok metadata) (hopen : start.state.isOpen = true)
    (hencode : kind.encode start.options entity = .done ⟨metadata.collection, key, document⟩)
    (hdecode : ∀ options, kind.decode options document key = .ok loaded) (calls : List Call) :
    let stored := (kind.store entity).run backend start
    stored.1 = .done () ∧ (kind.store entity).reports backend start = [] ∧
      (stored.2.Throughout backend
          (fun now call => call.Spares ⟨metadata.collection, key⟩ now) calls →
        let later := stored.2.afterAll backend calls
        ((kind.load key).run backend later).1 = .done (some loaded) ∧
          (kind.load key).reports backend later = []) := by
  intro stored
  obtain ⟨houtcome, hreports, hget⟩ := run_store entity hopen hencode
  refine ⟨houtcome, hreports, fun hspared => ?_⟩
  -- The slot still holds the document, whatever the options have become.
  obtain ⟨hkept, -⟩ := Service.get?_afterAll_of_spares calls hspared
  exact run_load hresolve (hkept.trans hget) (hdecode _)

/-- An entity with a key can be stored on an open backend, and after any calls that spare its slot
it is loaded as it was. Nothing is reported at either end. -/
def StructuredKind.RoundTrips (kind : StructuredKind α) (entity : α) : Prop :=
  ∀ (key : String) (start : Service Memory) (calls : List Call),
    kind.key entity = some key → key ≠ "" → start.state.isOpen = true →
      let stored := (Facade.store kind entity).run backend start
      stored.1 = .done () ∧ (Facade.store kind entity).reports backend start = [] ∧
        (stored.2.Throughout backend
            (fun now call => call.Spares ⟨kind.declaration.collection, key⟩ now) calls →
          let later := stored.2.afterAll backend calls
          ((Facade.load kind key).run backend later).1 = .done (some entity) ∧
            (Facade.load kind key).reports backend later = [])

/-- Storing a lossless entity and loading it again gives it back. -/
theorem Lossless.roundTrips {kind : StructuredKind α} {entity : α}
    (h : ∃ metadata fields, Lossless kind metadata fields entity) : kind.RoundTrips entity := by
  obtain ⟨metadata, fields, hlossless⟩ := h
  intro key start calls hkey hne hopen stored
  obtain ⟨document, hencode, hdecode⟩ := hlossless.exists_encode hkey hne start.options
  have hcollection : kind.declaration.collection = metadata.collection := by
    rw [Declaration.eq_of_resolve hlossless.resolves]
  have hencoding : (Kind.structured kind).encode start.options entity =
      .done ⟨metadata.collection, key, document⟩ := congrArg Outcome.ofExcept hencode
  rw [hcollection]
  exact (Kind.structured kind).run_roundTrip hlossless.resolves hopen hencoding hdecode calls

/-- Which records are loaded as they were stored, in every field. -/
structure RecordsRoundTrip : Prop where
  /-- The levels of players. -/
  level : ∀ record : PlayerLevel, PlayerLevel.kind.RoundTrips record
  /-- Profiles of the first form, which have an instant. -/
  profile : ∀ profile : Profile, Profile.kind.RoundTrips profile
  /-- Profiles of the second form, which have integers and a list. -/
  profileV2 : ∀ profile : ProfileV2, ProfileV2.kind.RoundTrips profile
  /-- Planets. -/
  planet : ∀ planet : Planet, Planet.kind.RoundTrips planet
  /-- The counters of players, if none of their names begins with a dollar sign. -/
  stats : ∀ record : PlayerStats, (∀ name ∈ Pairs.names record.stats.pairs, ¬ HasDollar name) →
    PlayerStats.kind.RoundTrips record
  /-- Tables of scores, if none of the names in them begins with a dollar sign. -/
  board : ∀ board : Scoreboard, (∀ name ∈ Pairs.names board.scores.pairs, ¬ HasDollar name) →
    Scoreboard.kind.RoundTrips board

/-- Records of these kinds are lossless, so they are loaded as they were stored. -/
theorem records_roundTrip : RecordsRoundTrip := by
  constructor
  case level => exact fun record => Lossless.roundTrips record.lossless
  case profile => exact fun profile => Lossless.roundTrips profile.lossless
  case profileV2 => exact fun profile => Lossless.roundTrips profile.lossless
  case planet => exact fun planet => Lossless.roundTrips planet.lossless
  case stats =>
    intro record hnames
    exact Lossless.roundTrips (record.lossless (Json.plain_statsJson hnames).faithful)
  case board => exact fun board hnames => Lossless.roundTrips (board.lossless hnames)

/-- A table with an unknown score outlives the deletion of another one and a change of options. -/
theorem records_roundTrip_board :
    let board : Scoreboard := ⟨"north", NameMap.empty.insert "visitor" none, none⟩
    let calls : List Call :=
      [.operate (.delete (.structured Scoreboard.kind) "south"), .resetCodec ⟨false, 8⟩]
    let stored := (Facade.store Scoreboard.kind board).run backend (.on .fresh .collect)
    ((Facade.load Scoreboard.kind "north").run backend (stored.2.afterAll backend calls)).1 =
      .done (some board) := by
  intro board calls stored
  have hnames : ∀ name ∈ Pairs.names board.scores.pairs, ¬ HasDollar name := by decide
  have hspared : stored.2.Throughout backend
      (fun now call => call.Spares ⟨Scoreboard.kind.declaration.collection, "north"⟩ now)
      calls := by
    refine ⟨?_, trivial, trivial⟩
    rintro ⟨-, hslot, -⟩
    exact absurd hslot (by decide)
  exact ((records_roundTrip.board board hnames "north" (.on .fresh .collect) calls rfl
    (by decide) rfl).2.2 hspared).1

end KeyedStore
