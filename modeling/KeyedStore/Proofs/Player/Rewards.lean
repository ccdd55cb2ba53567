import KeyedStore.Proofs.Player.Experience
import KeyedStore.Proofs.Player.SeparatePlayers

/-!
# Rewards in turn

The experience of a player is what the document of the player is decoded to, and zero if there is no
document. A reward adds to the experience of its player and leaves that of everybody else alone, so
after any rewards a player has the experience that the player's own rewards come to, each added to
what the one before it has left.

- `Service.HasExperience`: the experience of a player as it is stored;
- `HasExperience.rewarded`, `HasExperience.reward_of_ne`: what a reward does to it;
- `hasExperience_rewardAll`: the experience after rewards to any players;
- `rewards_clamped`: sums are clamped and levels are told truthfully.

## References

- SPEC_FULL.md, section 10.7, `reward_player`
-/

namespace KeyedStore

open Memory

/-- A reward for a player. -/
structure Reward where
  /-- The player. -/
  playerId : String
  /-- The amount, negative if experience is taken away. -/
  amount : Int64

namespace Reward

/-- The amounts of the rewards for one player, in order. -/
def amounts (playerId : String) (rewards : List Reward) : List Int64 :=
  (rewards.filter fun reward => reward.playerId = playerId).map amount

/-- What the rewards for one player come to. -/
def total (playerId : String) (rewards : List Reward) : Int :=
  ((amounts playerId rewards).map Int64.toInt).sum

/-- The experience that a player has after rewards. -/
def earned (playerId : String) (experience : Int64) (rewards : List Reward) : Int64 :=
  (amounts playerId rewards).foldl Experience.add experience

variable {playerId : String}

/-- A reward for the player counts before the rewards behind it. -/
theorem earned_cons_self (experience amount : Int64) (rewards : List Reward) :
    earned playerId experience (⟨playerId, amount⟩ :: rewards) =
      earned playerId (Experience.add experience amount) rewards := by
  simp [earned, amounts]

/-- A reward for somebody else does not count. -/
theorem earned_cons_of_ne {reward : Reward} (h : reward.playerId ≠ playerId) (experience : Int64)
    (rewards : List Reward) :
    earned playerId experience (reward :: rewards) = earned playerId experience rewards := by
  simp [earned, amounts, h]

/-- A reward at the end is added to what has been earned before it. -/
theorem earned_concat_self (experience amount : Int64) (rewards : List Reward) :
    earned playerId experience (rewards ++ [⟨playerId, amount⟩]) =
      Experience.add (earned playerId experience rewards) amount := by
  simp [earned, amounts]

/-- Rewards that take nothing away are summed exactly. -/
theorem toInt_earned {experience : Int64} (hexperience : 0 ≤ experience.toInt)
    {rewards : List Reward} (hrewards : ∀ reward ∈ rewards, 0 ≤ reward.amount.toInt) :
    (earned playerId experience rewards).toInt =
      min (experience.toInt + total playerId rewards) Int64.maxValue.toInt := by
  refine Experience.toInt_foldl_add (fun amount hamount => ?_) hexperience
  obtain ⟨reward, hreward, rfl⟩ := List.mem_map.mp hamount
  exact hrewards reward (List.mem_of_mem_filter hreward)

end Reward

/-- The award that tells the levels before and after a reward. -/
def LevelAward.told (playerId : String) (amount before after : Int64) : LevelAward where
  playerId := playerId
  awarded := amount
  oldLevel := Experience.level before.toInt
  newLevel := Experience.level after.toInt
  leveledUp := Experience.level before.toInt < Experience.level after.toInt

namespace Service

/-- Carry out a reward. -/
def reward (service : Service Memory) (reward : Reward) : Outcome LevelAward × Service Memory :=
  (LevelService.reward reward.playerId reward.amount).run backend service

/-- The store after rewards, one after the other. -/
def rewardAll (service : Service Memory) (rewards : List Reward) : Service Memory :=
  rewards.foldl (fun service reward => (service.reward reward).2) service

/-- The experience of a player as it is stored: what the document of the player is decoded to, and
zero if there is none. -/
def HasExperience (service : Service Memory) (playerId : String) (experience : Int64) : Prop :=
  match service.state.get? (PlayerLevel.slot playerId) with
  | none => experience = 0
  | some document => ∃ record,
    Codec.decode PlayerLevel.kind service.options document playerId = .ok record ∧
      record.experience = experience

variable {service other : Service Memory} {playerId : String} {experience : Int64}

/-- Services that agree on the slot of a player agree on the experience. -/
theorem AgreeAt.hasExperience (h : service.AgreeAt (PlayerLevel.slot playerId) other)
    (hother : other.HasExperience playerId experience) :
    service.HasExperience playerId experience := by
  unfold HasExperience
  rw [h.state.get?, h.options]
  exact hother

/-- The experience in a document is what stands there under its name, whatever else the document
holds. -/
theorem hasExperience_of_get? {document : Document}
    (hget : service.state.get? (PlayerLevel.slot playerId) = some document)
    (hdistinct : Pairs.Distinct document)
    (hexperience : Pairs.get? "experience" document = some (.int64 experience)) :
    service.HasExperience playerId experience := by
  rw [HasExperience, hget]
  refine ⟨⟨playerId, experience⟩,
    (Codec.decode_eq_ok_iff _ PlayerLevel.resolve_kind).mpr ?_, rfl⟩
  refine Record.Fits.read_eq ?_ (Codec.distinct_pairsRead hdistinct)
  -- The name of the player is the key, and the experience is a whole number.
  refine Record.Fits.there ?_ ?_ (Shape.int64_whole experience) (some 0)
  · have hkey := Codec.get?_pairsRead_key ⟨"PlayerLevelData", "player_levels", "playerId"⟩ document
      playerId
    have htext : Shape.text (.string playerId) = .ok playerId := rfl
    exact (Record.fits_of PlayerLevel.mk _).there hkey htext none
  · rw [Codec.get?_pairsRead_of_ne (by decide) (by decide), hexperience]
    rfl

/-- What a reward does to the experience of its player. -/
structure Rewarded (service : Service Memory) (playerId : String) (amount before after : Int64) :
    Prop where
  /-- The experience before it. -/
  had : service.HasExperience playerId before
  /-- The experience after it. -/
  has : (service.reward ⟨playerId, amount⟩).2.HasExperience playerId after
  /-- The award tells the levels before and after it. -/
  award : (service.reward ⟨playerId, amount⟩).1 = .done (.told playerId amount before after)
  /-- The amount is added exactly, and the sum is clamped. -/
  clamped : after.toInt = max 0 (min (before.toInt + amount.toInt) Int64.maxValue.toInt)
  /-- The level is never lowered, unless experience is taken away or was missing. -/
  rises : 0 ≤ amount.toInt → 0 ≤ before.toInt →
    Experience.level before.toInt ≤ Experience.level after.toInt

namespace HasExperience

/-- A player is looked up: the record bears the name of the player and the stored experience. -/
theorem ends_loadOrBlank (h : service.HasExperience playerId experience)
    (hopen : service.state.isOpen = true) :
    (LevelService.loadOrBlank playerId).Ends backend service.options service.state
      (.done ⟨playerId, experience⟩) service.state [] := by
  rw [HasExperience] at h
  cases hget : service.state.get? (PlayerLevel.slot playerId) with
  | none =>
    rw [hget] at h
    -- Nobody has experience without a document.
    obtain rfl : experience = 0 := h
    exact ((Kind.structured PlayerLevel.kind).ends_load_of_vacant PlayerLevel.resolve_kind hopen
      hget).bind (Routine.ends_pure _ _)
  | some document =>
    rw [hget] at h
    -- A document that is decoded belongs to the player that it was looked up for.
    obtain ⟨record, hdecode, rfl⟩ := h
    obtain rfl : record.playerId = playerId := PlayerLevel.playerId_of_decode hdecode
    exact ((Kind.structured PlayerLevel.kind).ends_load PlayerLevel.resolve_kind hget hdecode).bind
      (Routine.ends_pure _ _)

/-- A reward is added to the experience of its player. -/
theorem rewarded (h : service.HasExperience playerId experience)
    (hopen : service.state.isOpen = true) (hne : playerId ≠ "") (amount : Int64) :
    service.Rewarded playerId amount experience (Experience.add experience amount) ∧
      (service.reward ⟨playerId, amount⟩).2.state.isOpen = true := by
  obtain ⟨document, hencode, hdecode⟩ :=
    PlayerLevel.exists_encode ⟨playerId, Experience.add experience amount⟩ hne service.options
  obtain ⟨last, hstore, hstillOpen, hget⟩ := (Kind.structured PlayerLevel.kind).ends_store hopen
    (congrArg Outcome.ofExcept hencode)
  -- The record is loaded, its sum is stored, and the award is told.
  have hends : (LevelService.reward playerId amount).Ends backend service.options service.state
      (.done (.told playerId amount experience (Experience.add experience amount))) last [] :=
    (h.ends_loadOrBlank hopen).bind (hstore.bind (Routine.ends_pure _ last))
  obtain ⟨hanswer, hstate, -⟩ := hends.run_eq
  have hslot : last.get? (PlayerLevel.slot playerId) = some document :=
    (hget _).trans (if_pos rfl)
  refine ⟨⟨h, ?_, hanswer, Experience.toInt_add experience amount, fun hamount hpositive => ?_⟩, ?_⟩
  · -- What has been stored is decoded to what has been encoded.
    rw [HasExperience, Service.reward, hstate, hslot]
    exact ⟨_, hdecode _, rfl⟩
  · refine Experience.level_mono ?_
    rw [Experience.toInt_add_of_nonneg hpositive hamount]
    exact le_min (Int.le_add_of_nonneg_right hamount) (Int64.toInt_le _)
  · rw [Service.reward, hstate]
    exact hstillOpen.trans hopen

/-- A reward leaves the experience of everybody else alone. -/
theorem reward_of_ne (h : service.HasExperience playerId experience) {reward : Reward}
    (hne : reward.playerId ≠ playerId) :
    (service.reward reward).2.HasExperience playerId experience ∧
      (service.reward reward).2.state.isOpen = service.state.isOpen := by
  have hslot : PlayerLevel.slot playerId ≠ PlayerLevel.slot reward.playerId :=
    fun heq => hne (congrArg Slot.id heq).symm
  have hagree : (service.reward reward).2.AgreeAt (PlayerLevel.slot playerId) service :=
    (LevelService.within_reward reward.playerId reward.amount).agreeAt_run_of_ne service hslot
  exact ⟨hagree.hasExperience h, hagree.state.isOpen⟩

end HasExperience

/-- After rewards for any players, a player has the experience that the player's own rewards come
to. -/
theorem hasExperience_rewardAll (h : service.HasExperience playerId experience)
    (hopen : service.state.isOpen = true) (hne : playerId ≠ "") (rewards : List Reward) :
    (service.rewardAll rewards).HasExperience playerId
        (Reward.earned playerId experience rewards) ∧
      (service.rewardAll rewards).state.isOpen = true := by
  -- The store changes with every reward, and the experience with every reward for the player.
  induction rewards generalizing service experience with
  | nil => exact ⟨h, hopen⟩
  | cons reward rewards ih =>
    by_cases hplayer : reward.playerId = playerId
    · subst hplayer
      obtain ⟨hrewarded, hstillOpen⟩ := h.rewarded hopen hne reward.amount
      rw [Reward.earned_cons_self]
      exact ih hrewarded.has hstillOpen
    · obtain ⟨hnext, hstillOpen⟩ := h.reward_of_ne hplayer
      rw [Reward.earned_cons_of_ne hplayer]
      exact ih hnext (hstillOpen.trans hopen)

/-- On an open backend, for a player with a name who has no document or one that can be decoded:
whatever rewards there have been, a reward is added exactly to the stored experience, the sum is
clamped to the amounts from zero to the greatest one, and the award tells the levels before and
after it. If no reward takes anything away, the experience in the end depends on nothing but the sum
of the player's rewards. -/
theorem rewards_clamped {start : Service Memory} (hopen : start.state.isOpen = true)
    {playerId : String} (hne : playerId ≠ "") {first : Int64}
    (hfirst : start.HasExperience playerId first) :
    (∀ (past : List Reward) (amount : Int64),
      (start.rewardAll past).Rewarded playerId amount (Reward.earned playerId first past)
        (Reward.earned playerId first (past ++ [⟨playerId, amount⟩]))) ∧
    (0 ≤ first.toInt → ∀ rewards : List Reward, (∀ reward ∈ rewards, 0 ≤ reward.amount.toInt) →
      ∃ last : Int64, (start.rewardAll rewards).HasExperience playerId last ∧
        last.toInt = min (first.toInt + Reward.total playerId rewards) Int64.maxValue.toInt ∧
        ∀ others : List Reward, (∀ reward ∈ others, 0 ≤ reward.amount.toInt) →
          Reward.total playerId others = Reward.total playerId rewards →
            (start.rewardAll others).HasExperience playerId last) := by
  refine ⟨fun past amount => ?_, fun hnonneg rewards hrewards => ?_⟩
  · -- Each reward adds to what those before it have left.
    obtain ⟨hbefore, hstillOpen⟩ := hasExperience_rewardAll hfirst hopen hne past
    rw [Reward.earned_concat_self]
    exact (hbefore.rewarded hstillOpen hne amount).1
  · have hlast : (Reward.earned playerId first rewards).toInt = _ :=
      Reward.toInt_earned hnonneg hrewards
    refine ⟨_, (hasExperience_rewardAll hfirst hopen hne rewards).1, hlast,
      fun others hothers htotal => ?_⟩
    -- Two amounts of experience with one sum are the same.
    have hsame : Reward.earned playerId first others = Reward.earned playerId first rewards := by
      rw [← Int64.toInt_inj, hlast, Reward.toInt_earned hnonneg hothers, htotal]
    rw [← hsame]
    exact (hasExperience_rewardAll hfirst hopen hne others).1

/-- A player in debt is rewarded, with a reward for somebody else in between; and whatever comes to
one more than the top leaves a player at the top. -/
theorem rewards_clamped_debt :
    let debt : Document := [("_id", .string "p"), ("experience", .int64 (-50))]
    let start := Service.on (.opened (Shelf.empty.put (PlayerLevel.slot "p") debt)) .collect
    let past : List Reward := [⟨"p", 30⟩, ⟨"q", 7⟩]
    start.HasExperience "p" (-50) ∧ (start.rewardAll past).Rewarded "p" 400 0 400 ∧
      ∀ others : List Reward, (∀ reward ∈ others, 0 ≤ reward.amount.toInt) →
        Reward.total "q" others = 9223372036854775808 →
          (start.rewardAll others).HasExperience "q" 9223372036854775807 := by
  intro debt start past
  have hopen : start.state.isOpen = true := rfl
  have hp : "p" ≠ "" := by decide
  have hq : "q" ≠ "" := by decide
  have hslot : start.state.get? (PlayerLevel.slot "p") = some debt :=
    Shelf.empty.get?_put_self (PlayerLevel.slot "p") debt
  have hdebt : start.HasExperience "p" (-50) := hasExperience_of_get? hslot (by decide) rfl
  have hnothing : start.HasExperience "q" 0 := rfl
  have hzero : Reward.earned "p" (-50) past = 0 := by decide +kernel
  have hsum : Reward.earned "p" (-50) (past ++ [⟨"p", 400⟩]) = 400 := by decide +kernel
  have hrewarded := (rewards_clamped hopen hp hdebt).1 past 400
  rw [hzero, hsum] at hrewarded
  refine ⟨hdebt, hrewarded, fun others hothers htotal => ?_⟩
  let twice : List Reward := [⟨"q", 9223372036854775807⟩, ⟨"q", 1⟩]
  have htwice : ∀ reward ∈ twice, 0 ≤ reward.amount.toInt := by decide +kernel
  have hnonneg : 0 ≤ (0 : Int64).toInt := by decide +kernel
  have htotals : Reward.total "q" twice = 9223372036854775808 := by decide +kernel
  have htop : min ((0 : Int64).toInt + Reward.total "q" twice) Int64.maxValue.toInt =
      (9223372036854775807 : Int64).toInt := by
    decide +kernel
  obtain ⟨top, -, hlast, hothersEnd⟩ := (rewards_clamped hopen hq hnothing).2 hnonneg twice htwice
  rw [← Int64.toInt_inj.mp (hlast.trans htop)]
  exact hothersEnd others hothers (htotal.trans htotals.symm)

end Service

end KeyedStore
