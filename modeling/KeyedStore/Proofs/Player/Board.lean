import KeyedStore.Player.Stats
import KeyedStore.Proofs.Bson.Plain
import KeyedStore.Proofs.Pairs
import Mathlib.Tactic.Common

/-!
# The board of counters

What the counters of all players are, without a word about documents: a partial map from players to
counters, and counters are a partial map from names to whole numbers. A call of the service reads
the board and changes the counters of one player.

- `Board.play`: the answer to a call, and the board after it;
- `play_eq_of_alike`: the order in which the maps of a call are visited does not matter;
- `PlayerStats.add_cases`: increments that are added in turn are added all at once, or one of the
  sums does not fit.

## References

- SPEC_FULL.md, section 10.7, the operations on statistics
-/

namespace KeyedStore

/-! ## Counters -/

/-- Counters by name. -/
def Counters := String → Option Int

namespace Counters

/-- No counters at all. -/
def empty : Counters := fun _ => none

/-- The counters that a map holds. -/
def of (map : NameMap Int64) : Counters :=
  fun name => (map.get? name).map Int64.toInt

/-- A counter, zero if it is not there, and an increment. -/
def sum (counters : Counters) (name : String) (increment : Int64) : Int :=
  (counters name).getD 0 + increment.toInt

/-- The counters after an award. -/
def add (counters : Counters) (increments : NameMap Int64) : Counters := fun name =>
  match increments.get? name with
  | some increment => some (counters.sum name increment)
  | none => counters name

/-- The counters without some of them. -/
def without (counters : Counters) (names : List String) : Counters :=
  fun name => if name ∈ names then none else counters name

/-- A whole number has 64 signed bits. -/
def Fits (n : Int) : Prop :=
  -2 ^ 63 ≤ n ∧ n < 2 ^ 63

/-- Whether a number fits is decidable. -/
instance (n : Int) : Decidable (Fits n) :=
  inferInstanceAs (Decidable (_ ∧ _))

/-- Some sum of an award does not fit. -/
def Overflows (counters : Counters) (increments : NameMap Int64) : Prop :=
  ∃ name increment, increments.get? name = some increment ∧ ¬ Fits (counters.sum name increment)

/-- Increments overflow exactly if one of them makes a sum that does not fit. -/
theorem overflows_iff (counters : Counters) (increments : NameMap Int64) :
    counters.Overflows increments ↔
      ∃ pair ∈ increments.pairs, ¬ Fits (counters.sum pair.1 pair.2) := by
  simp only [Overflows, NameMap.get?, Pairs.get?_eq_some_iff increments.distinct, Prod.exists]

/-- Whether an award overflows is decidable. -/
instance (counters : Counters) (increments : NameMap Int64) :
    Decidable (counters.Overflows increments) :=
  decidable_of_iff _ (counters.overflows_iff increments).symm

/-- Increments to no counters at all do not overflow. -/
theorem not_overflows_empty (increments : NameMap Int64) : ¬ empty.Overflows increments := by
  rintro ⟨name, increment, -, hover⟩
  have hsum : empty.sum name increment = increment.toInt := Int.zero_add _
  rw [hsum] at hover
  exact hover ⟨increment.le_toInt, increment.toInt_lt⟩

/-- No counter has a name that begins with a dollar sign. -/
def Undollared (counters : Counters) : Prop :=
  ∀ name, counters name ≠ none → ¬ HasDollar name

/-- The counters of a map have no dollar signs exactly if its names have none. -/
theorem undollared_of_iff (map : NameMap Int64) :
    (of map).Undollared ↔ ∀ name ∈ Pairs.names map.pairs, ¬ HasDollar name := by
  refine forall_congr' fun name => ?_
  rw [of, ne_eq, Option.map_eq_none_iff, NameMap.get?, Pairs.get?_eq_none_iff, Classical.not_not]

/-- Whether a map has a name that begins with a dollar sign is decidable. -/
instance (map : NameMap Int64) : Decidable (of map).Undollared :=
  decidable_of_iff _ (undollared_of_iff map).symm

end Counters

/-! ## Calls -/

/-- The counters of every player who has a record. -/
def Board := String → Option Counters

/-- Something that a caller asks of the service. -/
inductive StatsCall where
  /-- Add increments to the counters of a player. -/
  | award (playerId : String) (increments : NameMap Int64)
  /-- Replace the counters of a player. -/
  | set (playerId : String) (stats : NameMap Int64)
  /-- Remove counters of a player. -/
  | remove (playerId : String) (names : List String)
  /-- Delete the record of a player. -/
  | clear (playerId : String)
  /-- The counters of a player. -/
  | get (playerId : String)

namespace Board

/-- The board on which no player has a record. -/
def vacant : Board := fun _ => none

/-- The board with another record for one player, or none. -/
def put (board : Board) (playerId : String) (record : Option Counters) : Board :=
  fun other => if other = playerId then record else board other

/-- Putting what is there changes nothing. -/
theorem put_eq_self {board : Board} {playerId : String} {record : Option Counters}
    (h : board playerId = record) : board.put playerId record = board := by
  funext other
  rw [put]
  split_ifs with heq
  · rw [heq, h]
  · rfl

/-- The answer to a call, and the board after it. Without a player there is nobody to award and
nothing to set, and an award with a sum that does not fit is no award at all. -/
def play (board : Board) : StatsCall → Outcome (Option Counters) × Board
  | .award playerId increments =>
    let counters := (board playerId).getD .empty
    if playerId = "" then (.failed (.emptyKey "PlayerStatsData" "playerId"), board)
    else if counters.Overflows increments then (.aborted .additionOverflow, board)
    else
      (.done (some (counters.add increments)), board.put playerId (some (counters.add increments)))
  | .set playerId stats =>
    if playerId = "" then (.failed (.emptyKey "PlayerStatsData" "playerId"), board)
    else (.done none, board.put playerId (some (.of stats)))
  | .remove playerId names =>
    (.done none, board.put playerId ((board playerId).map (·.without names)))
  | .clear playerId => (.done none, board.put playerId none)
  | .get playerId => (.done (some ((board playerId).getD .empty)), board)

/-- The answers to calls, one after the other, and the board after them. -/
def playAll (board : Board) : List StatsCall → List (Outcome (Option Counters)) × Board
  | [] => ([], board)
  | call :: calls =>
    let (answer, after) := board.play call
    let (answers, last) := after.playAll calls
    (answer :: answers, last)

end Board

/-- Two calls differ in nothing but the order in which their maps are visited. -/
inductive StatsCall.Alike : StatsCall → StatsCall → Prop where
  /-- Increments in any order. -/
  | award (playerId : String) {first second : NameMap Int64} (h : first.Alike second) :
    Alike (.award playerId first) (.award playerId second)
  /-- Counters in any order. -/
  | set (playerId : String) {first second : NameMap Int64} (h : first.Alike second) :
    Alike (.set playerId first) (.set playerId second)
  /-- The same call. -/
  | same (call : StatsCall) : Alike call call

/-- No map of a call has a name that begins with a dollar sign. -/
def StatsCall.Undollared : StatsCall → Prop
  | .award _ map | .set _ map => (Counters.of map).Undollared
  | .remove _ _ | .clear _ | .get _ => True

/-- Whether a call has such a map is decidable. -/
instance (call : StatsCall) : Decidable call.Undollared :=
  match call with
  | .award _ map | .set _ map => inferInstanceAs (Decidable (Counters.of map).Undollared)
  | .remove _ _ | .clear _ | .get _ => inferInstanceAs (Decidable True)

namespace Counters

variable {first second : NameMap Int64}

/-- Maps that differ in their order only are the same counters. -/
theorem of_eq_of_alike (h : first.Alike second) : of first = of second := by
  funext name
  rw [of, of, h name]

/-- The order of increments does not matter to the sums. -/
theorem add_eq_of_alike (h : first.Alike second) (counters : Counters) :
    counters.add first = counters.add second := by
  funext name
  simp only [add, h name]

/-- The order of increments does not matter to whether one of them overflows. -/
theorem overflows_iff_of_alike (h : first.Alike second) (counters : Counters) :
    counters.Overflows first ↔ counters.Overflows second := by
  simp only [Overflows, h _]

end Counters

/-- Calls that differ in the order of their maps only have the same names. -/
theorem StatsCall.Alike.undollared {first second : StatsCall} (h : first.Alike second)
    (hfirst : first.Undollared) : second.Undollared := by
  cases h with
  | award playerId h | set playerId h =>
    rw [Undollared, ← Counters.of_eq_of_alike h]
    exact hfirst
  | same => exact hfirst

/-- The order in which the maps of a call are visited does not matter. -/
theorem Board.play_eq_of_alike {first second : StatsCall} (h : first.Alike second)
    (board : Board) : board.play first = board.play second := by
  cases h with
  | award playerId h =>
    simp only [play, Counters.add_eq_of_alike h, Counters.overflows_iff_of_alike h]
  | set playerId h => rw [play, play, Counters.of_eq_of_alike h]
  | same => rfl

/-! ## Maps -/

namespace Counters

theorem of_insert (map : NameMap Int64) (name : String) (value : Int64) (other : String) :
    of (map.insert name value) other = if other = name then some value.toInt else of map other := by
  split_ifs with h
  · rw [h, of, NameMap.get?_insert_self, Option.map_some]
  · rw [of, NameMap.get?_insert_of_ne map h, of]

theorem of_erase (map : NameMap Int64) (name other : String) :
    of (map.erase name) other = if other = name then none else of map other := by
  split_ifs with h
  · rw [h, of, NameMap.get?_erase_self, Option.map_none]
  · rw [of, NameMap.get?_erase_of_ne map h, of]

/-- Names that are erased in turn are gone, however often each of them comes. -/
theorem of_foldl_erase (names : List String) (map : NameMap Int64) :
    of (names.foldl NameMap.erase map) = (of map).without names := by
  induction names generalizing map with
  | nil =>
    funext name
    simp [without]
  | cons name names ih =>
    rw [List.foldl_cons, ih]
    funext other
    rw [without, without, of_erase]
    by_cases hname : other = name <;> by_cases hnames : other ∈ names <;> simp [hname, hnames]

/-- A number that is added to a counter of a map. -/
theorem sum_of (map : NameMap Int64) (name : String) (increment : Int64) :
    (of map).sum name increment = ((map.get? name).getD 0).toInt + increment.toInt := by
  rw [sum, of]
  cases map.get? name <;> rfl

end Counters

namespace PlayerStats

open Counters

/-- Adding to one counter adds exactly, or ends the computation where the sum does not fit. -/
theorem addOne_eq (map : NameMap Int64) (name : String) (increment : Int64) :
    addOne map name increment =
      if Fits ((of map).sum name increment) then
        .ok (map.insert name (Int64.ofInt ((of map).sum name increment)))
      else .error .additionOverflow := by
  rw [sum_of]
  rfl

/-- Increments to counters that are not there yet are the counters. -/
theorem addAll_eq_foldl {map : NameMap Int64} {added : List (String × Int64)}
    (h : Pairs.Distinct (map.pairs ++ added)) :
    addAll map added = .ok (added.foldl (fun map pair => map.insert pair.1 pair.2) map) := by
  induction added generalizing map with
  | nil => rfl
  | cons pair added ih =>
    obtain ⟨name, increment⟩ := pair
    have hnew := Pairs.not_mem_names_of_distinct_append h
    have hsum : (of map).sum name increment = increment.toInt := by
      rw [sum_of, NameMap.get?, Pairs.get?_eq_none_of_not_mem hnew]
      exact Int.zero_add _
    have hone : addOne map name increment = .ok (map.insert name increment) := by
      rw [addOne_eq, hsum, if_pos ⟨increment.le_toInt, increment.toInt_lt⟩, Int64.ofInt_toInt]
    have hpairs : (map.insert name increment).pairs = map.pairs ++ [(name, increment)] :=
      Pairs.insert_eq_append hnew increment
    have hrest : Pairs.Distinct ((map.insert name increment).pairs ++ added) := by
      rw [hpairs, List.append_assoc]
      exact h
    rw [addAll, hone]
    exact ih hrest

/-- Increments to the counters of a blank record are the counters. -/
theorem add_blank (playerId : String) (increments : NameMap Int64) :
    (blank playerId).add increments = .ok ⟨playerId, increments⟩ := by
  have hadd : addAll .empty increments.pairs = .ok increments := by
    rw [addAll_eq_foldl (show Pairs.Distinct ([] ++ _) from increments.distinct)]
    exact congrArg Except.ok increments.ofList_pairs
  rw [add, show (blank playerId).stats = .empty from rfl, hadd]
  rfl

/-- Increments with distinct names are added all at once, or one of the sums does not fit. -/
theorem addAll_cases {added : List (String × Int64)} (h : Pairs.Distinct added)
    (map : NameMap Int64) :
    (∃ pair ∈ added, ¬ Fits ((of map).sum pair.1 pair.2)) ∧
        addAll map added = .error .additionOverflow ∨
      (∀ pair ∈ added, Fits ((of map).sum pair.1 pair.2)) ∧
        ∃ after, addAll map added = .ok after ∧ ∀ name, of after name =
          match Pairs.get? name added with
          | some increment => some ((of map).sum name increment)
          | none => of map name := by
  induction added generalizing map with
  | nil => exact .inr ⟨by simp, map, rfl, fun _ => rfl⟩
  | cons pair added ih =>
    obtain ⟨name, increment⟩ := pair
    obtain ⟨hname, hadded⟩ := Pairs.distinct_cons.mp h
    have hone := addOne_eq map name increment
    by_cases hfits : Fits ((of map).sum name increment)
    · rw [if_pos hfits] at hone
      -- The first sum has no part in the others, for their names differ from its name.
      have hother : ∀ other, other ≠ name → ∀ value,
          (of (map.insert name (Int64.ofInt ((of map).sum name increment)))).sum other value =
            (of map).sum other value := by
        intro other hne value
        rw [sum, of_insert, if_neg hne, sum]
      have hrest : ∀ pair ∈ added, pair.1 ≠ name := by
        rintro pair hpair rfl
        exact hname (Pairs.mem_names_of_mem hpair)
      -- What is left to add is added to a map that has changed under the first name only.
      rcases ih hadded (map.insert name (Int64.ofInt ((of map).sum name increment))) with
        ⟨⟨pair, hpair, hover⟩, hadd⟩ | ⟨hall, after, hadd, hafter⟩
      · rw [hother _ (hrest pair hpair)] at hover
        exact .inl ⟨⟨pair, List.mem_cons_of_mem _ hpair, hover⟩, by rw [addAll, hone, ← hadd]⟩
      · refine .inr ⟨?_, after, by rw [addAll, hone, ← hadd], fun other => ?_⟩
        · rintro pair (_ | ⟨_, hpair⟩)
          · exact hfits
          · rw [← hother _ (hrest pair hpair)]
            exact hall pair hpair
        · rw [hafter, Pairs.get?]
          by_cases heq : name = other
          · subst heq
            have hvalue : (Int64.ofInt ((of map).sum name increment)).toInt =
                (of map).sum name increment := Int64.toInt_ofInt_of_le hfits.1 hfits.2
            rw [if_pos rfl, Pairs.get?_eq_none_of_not_mem hname]
            simp only [of_insert, if_pos, hvalue]
          · rw [if_neg heq]
            simp only [hother _ (Ne.symm heq), of_insert, if_neg (Ne.symm heq)]
    · rw [if_neg hfits] at hone
      exact .inl ⟨⟨_, List.mem_cons_self, hfits⟩, by rw [addAll, hone]⟩

/-- An award adds its increments to the counters of a record, or it overflows. -/
theorem add_cases (record : PlayerStats) (increments : NameMap Int64) :
    (of record.stats).Overflows increments ∧ record.add increments = .error .additionOverflow ∨
      ¬ (of record.stats).Overflows increments ∧
        ∃ stats, record.add increments = .ok ⟨record.playerId, stats⟩ ∧
          of stats = (of record.stats).add increments := by
  rw [overflows_iff]
  rcases addAll_cases increments.distinct record.stats with
    ⟨hover, hadd⟩ | ⟨hfits, stats, hadd, hstats⟩
  · exact .inl ⟨hover, by rw [add, hadd]⟩
  · refine .inr ⟨?_, stats, by rw [add, hadd], ?_⟩
    · rintro ⟨pair, hpair, hover⟩
      exact hover (hfits pair hpair)
    · funext name
      rw [hstats]
      rfl

end PlayerStats

/-! ## Names -/

namespace Counters

variable {counters : Counters}

theorem undollared_empty : empty.Undollared := fun _ h => absurd rfl h

/-- Sums of counters have no names but those of the counters and of the increments. -/
theorem Undollared.add (h : counters.Undollared) {increments : NameMap Int64}
    (hincrements : (of increments).Undollared) : (counters.add increments).Undollared := by
  intro name hname
  rw [Counters.add] at hname
  split at hname
  · rename_i increment hincrement
    refine hincrements name ?_
    rw [of, hincrement]
    simp
  · exact h name hname

/-- Removing counters brings no new names. -/
theorem Undollared.without (h : counters.Undollared) (names : List String) :
    (counters.without names).Undollared := by
  intro name hname
  rw [Counters.without] at hname
  split_ifs at hname
  · exact absurd rfl hname
  · exact h name hname

end Counters

end KeyedStore
