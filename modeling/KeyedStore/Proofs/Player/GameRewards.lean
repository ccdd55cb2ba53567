import KeyedStore.Proofs.Player.Rewards

/-!
# Rewards of a game

The players of a game are rewarded one after the other, in whatever order the map of rewards is
visited. A reward asks about the record of its player only, and in a map every player stands once.
So each reward does what it would do alone, and the order does not matter, as long as every player
has a name. A player without a name cannot be rewarded: the rewards before it have been stored by
then and stay, and those behind it are not carried out.

- `Service.experience`: the experience that a player counts as having, whatever documents there are;
- `RewardedEach`: each of several rewards has done what it does alone;
- `rewardedEach_rewardAll`: so it is with rewards for different players, one after the other;
- `run_rewardEach`, `run_rewardEach_of_nameless`: what rewarding the players of a game comes to;
- `GameRewarded`, `rewardGame_independent`: the rewards of a game are those of its players, in any
  order;
- `rewardGame_nameless`: what is left behind where a player without a name ends the rewards.

## References

- SPEC_FULL.md, section 10.7: `reward_game` and `list_player_experiences`
-/

namespace KeyedStore

open Memory

namespace Service

variable {service : Service Memory} {playerId : String}

/-! ## Single rewards -/

/-- The experience that a player counts as having: zero if there is no document, or none that can be
decoded. -/
def experience (service : Service Memory) (playerId : String) : Int64 :=
  match service.state.get? (PlayerLevel.slot playerId) with
  | none => 0
  | some document =>
    match Codec.decode PlayerLevel.kind service.options document playerId with
    | .ok record => record.experience
    | .error _ => 0

/-- On an open backend every player can be looked up. -/
theorem ends_loadOrBlank (hopen : service.state.isOpen = true) (playerId : String) :
    ∃ reports, (LevelService.loadOrBlank playerId).Ends backend service.options service.state
      (.done ⟨playerId, service.experience playerId⟩) service.state reports := by
  unfold experience
  cases hget : service.state.get? (PlayerLevel.slot playerId) with
  | none =>
    have hload : (Facade.load PlayerLevel.kind playerId).Ends backend service.options service.state
        (.done none) service.state [] :=
      (Kind.structured PlayerLevel.kind).ends_load_of_vacant PlayerLevel.resolve_kind hopen hget
    exact ⟨_, hload.bind (Routine.ends_pure _ _)⟩
  | some document =>
    cases hread : PlayerLevel.kind.read (.object (Codec.pairsRead
        ⟨"PlayerLevelData", "player_levels", "playerId"⟩ document playerId)) with
    | ok record =>
      have hdecode := (Codec.decode_eq_ok_iff service.options PlayerLevel.resolve_kind).mpr hread
      obtain rfl : record.playerId = playerId := PlayerLevel.playerId_of_decode hdecode
      have hload := (Kind.structured PlayerLevel.kind).ends_load PlayerLevel.resolve_kind hget
        hdecode
      simp only [hdecode]
      exact ⟨_, hload.bind (Routine.ends_pure _ _)⟩
    | error fault =>
      -- The document is reported as undecodable, and a blank record stands in for it.
      obtain ⟨excerpt, hdecode⟩ :=
        Codec.decode_of_fault service.options PlayerLevel.resolve_kind hread
      obtain ⟨reports, hload⟩ := (Kind.structured PlayerLevel.kind).ends_load_of_undecodable
        PlayerLevel.resolve_kind hget hdecode rfl
      simp only [hdecode]
      exact ⟨_, hload.bind (Routine.ends_pure _ _)⟩

/-- A player with a name is rewarded, whatever documents there are. -/
theorem reward_named (hopen : service.state.isOpen = true) (hne : playerId ≠ "") (amount : Int64) :
    (service.reward ⟨playerId, amount⟩).1 =
      .done (.told playerId amount (service.experience playerId)
        (Experience.add (service.experience playerId) amount)) := by
  obtain ⟨reports, hload⟩ := ends_loadOrBlank hopen playerId
  obtain ⟨document, hencode, -⟩ := PlayerLevel.exists_encode
    ⟨playerId, Experience.add (service.experience playerId) amount⟩ hne service.options
  obtain ⟨last, hstore, -⟩ := (Kind.structured PlayerLevel.kind).ends_store hopen
    (congrArg Outcome.ofExcept hencode)
  -- Nothing in the way of a reward can fail: the record is there or blank, and it can be stored.
  have hends : (LevelService.reward playerId amount).Ends backend service.options service.state
      (.done (.told playerId amount (service.experience playerId)
        (Experience.add (service.experience playerId) amount))) last (reports ++ ([] ++ [])) :=
    hload.bind (hstore.bind (Routine.ends_pure _ last))
  exact hends.run_eq.1

/-- A player without a name is not rewarded, and nothing is stored. -/
theorem reward_nameless (hopen : service.state.isOpen = true) (amount : Int64) :
    (service.reward ⟨"", amount⟩).1 = .failed (.emptyKey "PlayerLevelData" "playerId") ∧
      (service.reward ⟨"", amount⟩).2.state = service.state := by
  obtain ⟨reports, hload⟩ := ends_loadOrBlank hopen ""
  have hencode : (Kind.structured PlayerLevel.kind).encode service.options
      ⟨"", Experience.add (service.experience "") amount⟩ =
        .failed (.emptyKey "PlayerLevelData" "playerId") :=
    congrArg Outcome.ofExcept
      (PlayerLevel.encode_nameless (Experience.add (service.experience "") amount) service.options)
  -- The codec refuses a record without a key before the backend is asked.
  have hstore : (Facade.store PlayerLevel.kind _).Ends backend service.options service.state
      (.failed (.emptyKey "PlayerLevelData" "playerId")) service.state [] :=
    Kind.ends_store_of_failed hencode rfl
  have hends : (LevelService.reward "" amount).Ends backend service.options service.state
      (.failed (.emptyKey "PlayerLevelData" "playerId")) service.state (reports ++ []) :=
    hload.bind hstore.bind_failed
  exact ⟨hends.run_eq.1, hends.run_eq.2.1⟩

/-! ## Rewards for different players -/

/-- Each of several rewards has done to the record of its player what it does alone, and nothing
else has been done. -/
structure RewardedEach (start after : Service Memory) (rewards : List Reward) : Prop where
  /-- The record of a player who is rewarded is what the reward alone leaves behind. -/
  rewarded : ∀ reward ∈ rewards,
    after.AgreeAt (PlayerLevel.slot reward.playerId) (start.reward reward).2
  /-- Every other slot is as it was. -/
  others : ∀ slot, (∀ reward ∈ rewards, slot ≠ PlayerLevel.slot reward.playerId) →
    after.AgreeAt slot start

namespace RewardedEach

variable {start after other : Service Memory} {rewards : List Reward}

/-- No reward closes the backend. -/
theorem isOpen (h : start.RewardedEach after rewards) :
    after.state.isOpen = start.state.isOpen := by
  -- The slot is one that belongs to no player.
  refine (h.others ⟨"", ""⟩ fun reward _ hslot => ?_).state.isOpen
  exact absurd (congrArg Slot.collection hslot) (by simp [PlayerLevel.slot])

/-- Rewards have done what they do alone in any service that agrees on all slots. -/
theorem of_agreeAt (h : start.RewardedEach after rewards)
    (hagree : ∀ slot, other.AgreeAt slot after) : start.RewardedEach other rewards where
  rewarded reward hreward := (hagree _).trans (h.rewarded reward hreward)
  others slot hslot := (hagree slot).trans (h.others slot hslot)

/-- The same rewards in another order leave the same documents behind. -/
theorem alike (hafter : start.RewardedEach after rewards) {reordered : List Reward}
    (hother : start.RewardedEach other reordered)
    (hsame : ∀ reward, reward ∈ rewards ↔ reward ∈ reordered) :
    other.state.Alike after.state := by
  refine ⟨hother.isOpen.trans hafter.isOpen.symm, fun slot => ?_⟩
  by_cases hslot : ∃ reward ∈ rewards, slot = PlayerLevel.slot reward.playerId
  · -- A slot of a player has what the player's reward leaves behind, under either order.
    obtain ⟨reward, hreward, rfl⟩ := hslot
    calc other.state.get? (PlayerLevel.slot reward.playerId)
        = (start.reward reward).2.state.get? (PlayerLevel.slot reward.playerId) :=
          (hother.rewarded reward ((hsame reward).mp hreward)).state.get?
      _ = after.state.get? (PlayerLevel.slot reward.playerId) :=
          (hafter.rewarded reward hreward).state.get?.symm
  · -- Every other slot is as it was.
    push Not at hslot
    have hleft : ∀ reward ∈ reordered, slot ≠ PlayerLevel.slot reward.playerId :=
      fun reward hreward => hslot reward ((hsame reward).mpr hreward)
    exact (hother.others slot hleft).state.get?.trans (hafter.others slot hslot).state.get?.symm

/-- One more reward, for a player who has not been rewarded yet. -/
theorem concat (h : start.RewardedEach after rewards) (reward : Reward)
    (hnew : ∀ past ∈ rewards, reward.playerId ≠ past.playerId) :
    (after.reward reward).1 = (start.reward reward).1 ∧
      start.RewardedEach (after.reward reward).2 (rewards ++ [reward]) := by
  have hwithin := LevelService.within_reward reward.playerId reward.amount
  have hslot : ∀ past ∈ rewards,
      PlayerLevel.slot reward.playerId ≠ PlayerLevel.slot past.playerId :=
    fun past hpast hsame => hnew past hpast (congrArg Slot.id hsame)
  -- The record of the player is still the one of the start, so the reward cannot tell.
  obtain ⟨hanswer, hagree⟩ := hwithin.run_eq (h.others _ hslot)
  refine ⟨hanswer, ⟨fun member hmember => ?_, fun slot hother => ?_⟩⟩
  · rcases List.mem_append.mp hmember with hpast | hlast
    · exact (hwithin.agreeAt_run_of_ne after (hslot member hpast).symm).trans
        (h.rewarded member hpast)
    · obtain rfl := List.mem_singleton.mp hlast
      exact hagree
  · have hpast : ∀ past ∈ rewards, slot ≠ PlayerLevel.slot past.playerId :=
      fun past hpast => hother past (List.mem_append_left _ hpast)
    have hreward : slot ≠ PlayerLevel.slot reward.playerId := hother reward (by simp)
    exact (hwithin.agreeAt_run_of_ne after hreward).trans (h.others slot hpast)

end RewardedEach

/-- Rewards for different players, one after the other, each do what they do alone. -/
theorem rewardedEach_rewardAll (start : Service Memory) {rewards : List Reward}
    (hdistinct : (rewards.map Reward.playerId).Nodup) :
    start.RewardedEach (start.rewardAll rewards) rewards := by
  -- The player of the last reward has not been rewarded before.
  induction rewards using List.reverseRecOn with
  | nil =>
    refine ⟨fun reward hreward => absurd hreward (by simp), fun slot _ => ?_⟩
    exact AgreeAt.refl slot start
  | append_singleton rewards reward ih =>
    rw [List.map_append, List.nodup_append] at hdistinct
    obtain ⟨hpast, -, hnew⟩ := hdistinct
    rw [rewardAll, List.foldl_append]
    refine ((ih hpast).concat reward fun past hmember hsame => ?_).2
    exact hnew _ (List.mem_map_of_mem hmember) _ (by simp) hsame.symm

end Service

/-! ## Rewards of a game -/

namespace Reward

/-- The rewards that pairs stand for, in the order in which they are carried out. -/
def inTurn (pairs : List (String × Int64)) : List Reward :=
  (pairs.map fun pair => ⟨pair.1, pair.2⟩).reverse

/-- The rewards of a game, in the order in which they are carried out. -/
def ofGame (rewards : NameMap Int64) : List Reward :=
  inTurn rewards.pairs

variable {pairs : List (String × Int64)}

/-- The reward of the first pair is given after all others. -/
theorem inTurn_cons (playerId : String) (amount : Int64) (pairs : List (String × Int64)) :
    inTurn ((playerId, amount) :: pairs) = inTurn pairs ++ [⟨playerId, amount⟩] := by
  rw [inTurn, List.map_cons, List.reverse_cons, inTurn]

/-- The rewards of joined pairs are given from the last part to the first. -/
theorem inTurn_append (first second : List (String × Int64)) :
    inTurn (first ++ second) = inTurn second ++ inTurn first := by
  rw [inTurn, List.map_append, List.reverse_append, inTurn, inTurn]

/-- There is a reward for every pair, and no other. -/
theorem mem_inTurn {reward : Reward} :
    reward ∈ inTurn pairs ↔ (reward.playerId, reward.amount) ∈ pairs := by
  rw [inTurn, List.mem_reverse, List.mem_map]
  constructor
  · rintro ⟨pair, hpair, rfl⟩
    exact hpair
  · intro hpair
    exact ⟨_, hpair, rfl⟩

/-- Distinct names are rewarded once each. -/
theorem nodup_inTurn (h : Pairs.Distinct pairs) : ((inTurn pairs).map playerId).Nodup := by
  rw [inTurn, List.map_reverse, List.nodup_reverse, List.map_map]
  exact h

/-- A map holds a reward exactly if it is one of the rewards of the game. -/
theorem mem_ofGame {rewards : NameMap Int64} {reward : Reward} :
    reward ∈ ofGame rewards ↔ rewards.get? reward.playerId = some reward.amount := by
  rw [ofGame, mem_inTurn, NameMap.get?, Pairs.get?_eq_some_iff rewards.distinct]

end Reward

namespace Service

/-- Awards are exactly those that rewards bring alone. -/
def Tells (start : Service Memory) (pairs : List (String × Int64)) (awards : NameMap LevelAward) :
    Prop :=
  ∀ playerId award, awards.get? playerId = some award ↔
    ∃ amount, Pairs.get? playerId pairs = some amount ∧
      (start.reward ⟨playerId, amount⟩).1 = .done award

variable {start : Service Memory}

/-- No rewards bring no awards. -/
theorem tells_nil (start : Service Memory) : start.Tells [] .empty :=
  fun playerId award => by simp [Pairs.get?]

/-- One more award beside the others. -/
theorem Tells.insert {pairs : List (String × Int64)} {awards : NameMap LevelAward}
    (h : start.Tells pairs awards) {playerId : String} {amount : Int64} {award : LevelAward}
    (haward : (start.reward ⟨playerId, amount⟩).1 = .done award) :
    start.Tells ((playerId, amount) :: pairs) (awards.insert playerId award) := by
  intro other told
  rw [Pairs.get?]
  split_ifs with hother
  · subst hother
    -- The award that is written is the one that is asked for.
    rw [NameMap.get?_insert_self]
    constructor
    · intro htold
      exact ⟨amount, rfl, haward.trans (congrArg _ (Option.some.inj htold))⟩
    · rintro ⟨same, hsame, htold⟩
      rw [← Option.some.inj hsame, haward] at htold
      exact congrArg some (Outcome.done.inj htold)
  · rw [NameMap.get?_insert_of_ne _ (Ne.symm hother)]
    exact h other told

/-- The awards of a game are those that the rewards bring alone. -/
structure AwardsEach (start : Service Memory) (rewards : NameMap Int64)
    (awards : NameMap LevelAward) : Prop where
  /-- For every reward there is the award that it brings alone. -/
  told : ∀ playerId amount, rewards.get? playerId = some amount →
    ∃ award, awards.get? playerId = some award ∧
      (start.reward ⟨playerId, amount⟩).1 = .done award
  /-- There is no other award. -/
  none : ∀ playerId, rewards.get? playerId = none → awards.get? playerId = none
  /-- There are as many awards as rewards. -/
  size : awards.size = rewards.size

/-- If every player has a name, every reward brings an award. -/
theorem Tells.awardsEach {rewards : NameMap Int64} {awards : NameMap LevelAward}
    (h : start.Tells rewards.pairs awards) (hopen : start.state.isOpen = true)
    (hnamed : rewards.get? "" = Option.none) : start.AwardsEach rewards awards := by
  have htold : ∀ playerId amount, rewards.get? playerId = some amount →
      ∃ award, awards.get? playerId = some award ∧
        (start.reward ⟨playerId, amount⟩).1 = .done award := by
    intro playerId amount hamount
    have hne : playerId ≠ "" := by
      rintro rfl
      exact absurd (hamount.symm.trans hnamed) (by simp)
    have hdone := Service.reward_named hopen hne amount
    exact ⟨_, (h playerId _).mpr ⟨amount, hamount, hdone⟩, hdone⟩
  -- And an award is never told without a reward.
  have hback : ∀ playerId award, awards.get? playerId = some award →
      ∃ amount, rewards.get? playerId = some amount := by
    intro playerId award haward
    obtain ⟨amount, hamount, -⟩ := (h playerId award).mp haward
    exact ⟨amount, hamount⟩
  refine ⟨htold, fun playerId hnone => ?_, NameMap.size_eq fun playerId => ⟨?_, ?_⟩⟩
  · rw [Option.eq_none_iff_forall_ne_some]
    intro award haward
    obtain ⟨amount, hamount⟩ := hback playerId award haward
    exact absurd (hamount.symm.trans hnone) (by simp)
  · rintro ⟨award, haward⟩
    exact hback playerId award haward
  · rintro ⟨amount, hamount⟩
    obtain ⟨award, haward, -⟩ := htold playerId amount hamount
    exact ⟨award, haward⟩

end Service

namespace LevelService

variable {start : Service Memory} {pairs : List (String × Int64)}

/-- Rewards go on from what those behind have come to. -/
theorem run_rewardEach_cons {awards : NameMap LevelAward} {after : Service Memory}
    (hrest : (rewardEach pairs).run backend start = (.done awards, after)) {playerId : String}
    {amount : Int64} {award : LevelAward}
    (haward : (after.reward ⟨playerId, amount⟩).1 = .done award) :
    (rewardEach ((playerId, amount) :: pairs)).run backend start =
      (.done (awards.insert playerId award), (after.reward ⟨playerId, amount⟩).2) := by
  have hreward : (reward playerId amount).run backend after =
      (.done award, (after.reward ⟨playerId, amount⟩).2) := Prod.ext haward rfl
  simp only [rewardEach, Routine.run_bind, hrest, hreward]
  rfl

/-- Players with names are rewarded one after the other, each with the award that the reward brings
alone. -/
theorem run_rewardEach (hopen : start.state.isOpen = true) (hdistinct : Pairs.Distinct pairs)
    (hnamed : Pairs.get? "" pairs = none) :
    ∃ awards, (rewardEach pairs).run backend start =
        (.done awards, start.rewardAll (Reward.inTurn pairs)) ∧ start.Tells pairs awards := by
  induction pairs with
  | nil => exact ⟨.empty, rfl, start.tells_nil⟩
  | cons pair pairs ih =>
    obtain ⟨playerId, amount⟩ := pair
    obtain ⟨hnew, hrest⟩ := Pairs.distinct_cons.mp hdistinct
    rw [Pairs.get?] at hnamed
    split_ifs at hnamed with hne
    obtain ⟨awards, hrun, hawards⟩ := ih hrest hnamed
    have hplayers : ∀ past ∈ Reward.inTurn pairs, playerId ≠ past.playerId := by
      rintro past hpast rfl
      exact hnew (Pairs.mem_names_of_mem (Reward.mem_inTurn.mp hpast))
    -- The rewards so far have left the record of this player as it was.
    have heach := start.rewardedEach_rewardAll (Reward.nodup_inTurn hrest)
    obtain ⟨hanswer, -⟩ := heach.concat ⟨playerId, amount⟩ hplayers
    have haward := Service.reward_named hopen hne amount
    refine ⟨awards.insert playerId _, ?_, hawards.insert haward⟩
    rw [run_rewardEach_cons hrun (hanswer.trans haward), Reward.inTurn_cons, Service.rewardAll,
      Service.rewardAll, List.foldl_append]
    rfl

/-- A player without a name ends the rewards. Those before it have been carried out, the others have
not. -/
theorem run_rewardEach_of_nameless (hopen : start.state.isOpen = true)
    {later earlier : List (String × Int64)} {amount : Int64}
    (hdistinct : Pairs.Distinct (later ++ ("", amount) :: earlier)) :
    (rewardEach (later ++ ("", amount) :: earlier)).run backend start =
      (.failed (.emptyKey "PlayerLevelData" "playerId"),
        ((start.rewardAll (Reward.inTurn earlier)).reward ⟨"", amount⟩).2) := by
  induction later with
  | nil =>
    obtain ⟨hnew, hrest⟩ := Pairs.distinct_cons.mp hdistinct
    obtain ⟨awards, hrun, -⟩ :=
      run_rewardEach hopen hrest (Pairs.get?_eq_none_of_not_mem hnew)
    have heach := start.rewardedEach_rewardAll (Reward.nodup_inTurn hrest)
    have hfailed := Service.reward_nameless (heach.isOpen.trans hopen) amount
    have hreward : (reward "" amount).run backend (start.rewardAll (Reward.inTurn earlier)) =
        (.failed (.emptyKey "PlayerLevelData" "playerId"),
          ((start.rewardAll (Reward.inTurn earlier)).reward ⟨"", amount⟩).2) :=
      Prod.ext hfailed.1 rfl
    simp only [List.nil_append, rewardEach, Routine.run_bind, hrun, hreward]
  | cons pair later ih =>
    obtain ⟨playerId, other⟩ := pair
    -- What comes behind has failed, so this reward is not carried out.
    have hrest := ih (Pairs.distinct_cons.mp hdistinct).2
    simp only [List.cons_append, rewardEach, Routine.run_bind, hrest]

/-- The rewards of a game, all of whose players have names. -/
theorem run_rewardGame (hopen : start.state.isOpen = true) {rewards : NameMap Int64}
    (hnamed : rewards.get? "" = none) :
    ∃ awards after, (rewardGame rewards).run backend start = (.done awards, after) ∧
      start.AwardsEach rewards awards ∧ start.RewardedEach after (Reward.ofGame rewards) := by
  obtain ⟨awards, hrun, htells⟩ := run_rewardEach hopen rewards.distinct hnamed
  have heach := start.rewardedEach_rewardAll (Reward.nodup_inTurn rewards.distinct)
  have hgame : (rewardGame rewards).run backend start =
      (.done awards, (start.rewardAll (Reward.ofGame rewards)).note (.log ⟨.info, source,
        "⭐ 게임 보상 지급 완료: " ++ Text.decimal awards.size ++ "명"⟩)) := by
    simp only [rewardGame, Routine.run_bind, hrun]
    rfl
  refine ⟨awards, _, hgame, htells.awardsEach hopen hnamed, heach.of_agreeAt fun slot => ?_⟩
  exact Service.agreeAt_note slot _ _

/-- The rewards of a game with a player who has no name. -/
theorem run_rewardGame_of_nameless (hopen : start.state.isOpen = true) {rewards : NameMap Int64}
    {amount : Int64} (hnameless : rewards.get? "" = some amount) :
    ∃ earlier later, Reward.ofGame rewards = earlier ++ ⟨"", amount⟩ :: later ∧
      ((rewardGame rewards).run backend start).1 =
        .failed (.emptyKey "PlayerLevelData" "playerId") ∧
      start.RewardedEach ((rewardGame rewards).run backend start).2 earlier := by
  obtain ⟨later, earlier, hpairs⟩ := List.append_of_mem (Pairs.mem_of_get?_eq_some hnameless)
  have hdistinct := rewards.distinct
  rw [hpairs] at hdistinct
  -- The pairs behind the player without a name are rewarded first, each once.
  have hrest : Pairs.Distinct earlier :=
    (Pairs.distinct_cons.mp (List.Nodup.sublist ((List.sublist_append_right _ _).map _)
      hdistinct)).2
  have heach := start.rewardedEach_rewardAll (Reward.nodup_inTurn hrest)
  have hrun : (rewardGame rewards).run backend start =
      (.failed (.emptyKey "PlayerLevelData" "playerId"),
        ((start.rewardAll (Reward.inTurn earlier)).reward ⟨"", amount⟩).2) := by
    simp only [rewardGame, Routine.run_bind, hpairs, run_rewardEach_of_nameless hopen hdistinct]
  rw [hrun]
  refine ⟨Reward.inTurn earlier, Reward.inTurn later, ?_, rfl, heach.of_agreeAt fun slot => ?_⟩
  · rw [Reward.ofGame, hpairs, Reward.inTurn_append, Reward.inTurn_cons, List.append_assoc,
      List.singleton_append]
  · -- The player without a name has changed nothing.
    have hstate := (Service.reward_nameless (heach.isOpen.trans hopen) amount).2
    exact Service.agreeAt_of_eq hstate ((reward "" amount).options_run backend _) slot

/-! ## Looking players up -/

/-- The progress of a player is that of the experience that the player counts as having. -/
theorem ends_get (hopen : start.state.isOpen = true) (playerId : String) :
    ∃ reports, (get playerId).Ends backend start.options start.state
      (.done (.of playerId (start.experience playerId))) start.state reports := by
  obtain ⟨reports, hload⟩ := Service.ends_loadOrBlank hopen playerId
  exact ⟨_, hload.bind (Routine.ends_pure _ _)⟩

/-- Players are looked up in turn; each is found, and what is known already stays. -/
theorem ends_listFrom (hopen : start.state.isOpen = true) (playerIds : List String)
    (known : NameMap LevelProgress) :
    ∃ found reports, (listFrom known playerIds).Ends backend start.options start.state
        (.done found) start.state reports ∧
      ∀ playerId, found.get? playerId =
        if playerId ∈ playerIds then some (.of playerId (start.experience playerId))
        else known.get? playerId := by
  induction playerIds generalizing known with
  | nil => exact ⟨known, [], Routine.ends_pure known _, fun playerId => by simp⟩
  | cons first playerIds ih =>
    obtain ⟨earlier, hget⟩ := ends_get hopen first
    obtain ⟨found, later, hrest, hfound⟩ :=
      ih (known.insert first (.of first (start.experience first)))
    refine ⟨found, _, hget.bind hrest, fun playerId => ?_⟩
    rw [hfound]
    by_cases hfirst : playerId = first
    · -- A player who is looked up again is found to be the same.
      subst hfirst
      simp
    · rw [NameMap.get?_insert_of_ne _ hfirst]
      simp [hfirst]

/-- Players are looked up, each with the progress that is found when the player is looked up
alone. -/
theorem run_list (hopen : start.state.isOpen = true) (playerIds : List String) :
    ∃ found, ((list playerIds).run backend start).1 = .done found ∧
      found.size = playerIds.toFinset.card ∧
      ∀ playerId progress, found.get? playerId = some progress ↔
        playerId ∈ playerIds ∧ ((get playerId).run backend start).1 = .done progress := by
  obtain ⟨found, reports, hends, hfound⟩ := ends_listFrom hopen playerIds .empty
  refine ⟨found, hends.run_eq.1, NameMap.size_eq_card fun playerId => ?_,
    fun playerId progress => ?_⟩
  · rw [hfound, List.mem_toFinset]
    split_ifs with hmem <;> simp [hmem]
  · obtain ⟨_, hget⟩ := ends_get hopen playerId
    rw [hfound, hget.run_eq.1]
    split_ifs with hmem <;> simp [hmem]

end LevelService

/-! ## Games -/

/-- What a game has come to whose players all have names: the awards, and what it leaves behind. -/
structure LevelService.GameRewarded (start : Service Memory) (rewards : NameMap Int64)
    (awards : NameMap LevelAward) (after : Service Memory) : Prop where
  /-- The rewards have been carried out. -/
  run_eq : (rewardGame rewards).run backend start = (.done awards, after)
  /-- Each player gets the award that the reward alone brings. -/
  awardsEach : start.AwardsEach rewards awards
  /-- The record of each player is the one that the reward alone leaves behind, and no other slot is
  changed. -/
  rewardedEach : start.RewardedEach after (Reward.ofGame rewards)
  /-- In any other order the awards and the documents are the same. -/
  anyOrder : ∀ reordered : NameMap Int64, reordered.Alike rewards →
    ∃ others last, (rewardGame reordered).run backend start = (.done others, last) ∧
      others.Alike awards ∧ last.state.Alike after.state
  /-- Whoever is looked up afterwards, once or repeatedly, is found once, with the player's own
  progress. -/
  listed : ∀ playerIds, ∃ found, ((list playerIds).run backend after).1 = .done found ∧
    found.size = playerIds.toFinset.card ∧
    ∀ playerId progress, found.get? playerId = some progress ↔
      playerId ∈ playerIds ∧ ((get playerId).run backend after).1 = .done progress

/-- On an open backend, whatever documents there are, and whatever the order in which the rewards of
a game are visited: if every player has a name, the rewards come to what each of them does alone. -/
theorem LevelService.rewardGame_independent {start : Service Memory}
    (hopen : start.state.isOpen = true) {rewards : NameMap Int64}
    (hnamed : rewards.get? "" = none) :
    ∃ awards after, GameRewarded start rewards awards after := by
  obtain ⟨awards, after, hrun, hawards, heach⟩ := run_rewardGame hopen hnamed
  refine ⟨awards, after, hrun, hawards, heach, fun reordered halike => ?_, fun playerIds => ?_⟩
  · obtain ⟨others, last, hother, hothers, hlast⟩ :=
      run_rewardGame hopen ((halike "").trans hnamed)
    refine ⟨others, last, hother, fun playerId => ?_, heach.alike hlast fun reward => ?_⟩
    · cases hamount : rewards.get? playerId with
      | none => rw [hawards.none _ hamount, hothers.none _ ((halike _).trans hamount)]
      | some amount =>
        -- Both awards are the one that the reward brings alone.
        obtain ⟨award, haward, hdone⟩ := hawards.told _ _ hamount
        obtain ⟨same, hsame, hdoneToo⟩ := hothers.told _ _ ((halike _).trans hamount)
        rw [haward, hsame, Outcome.done.inj (hdone.symm.trans hdoneToo)]
    · rw [Reward.mem_ofGame, Reward.mem_ofGame, halike]
  · exact run_list (heach.isOpen.trans hopen) playerIds

/-- Two players are rewarded, and the document of one of them cannot be decoded. -/
theorem LevelService.rewardGame_independent_unreadable :
    let written : Document := [("_id", .string "p"), ("experience", .string "10")]
    let start := Service.on (.opened (Shelf.empty.put (PlayerLevel.slot "p") written)) .collect
    let rewards : NameMap Int64 := .ofList [("p", 150), ("q", 7)]
    start.state.isOpen = true ∧ rewards.get? "" = none ∧
      ∃ awards after, (rewardGame rewards).run backend start = (.done awards, after) ∧
        awards.size = 2 ∧ awards.get? "p" = some (.told "p" 150 0 150) ∧
        ∃ found, ((list ["q", "p", "q"]).run backend after).1 = .done found ∧ found.size = 2 := by
  intro written start rewards
  have hopen : start.state.isOpen = true := rfl
  have hnamed : rewards.get? "" = none := rfl
  obtain ⟨awards, after, hrewarded⟩ := rewardGame_independent hopen hnamed
  obtain ⟨found, hfound, hsize, -⟩ := hrewarded.listed ["q", "p", "q"]
  obtain ⟨award, haward, hdone⟩ := hrewarded.awardsEach.told "p" 150 rfl
  -- The document that cannot be decoded counts as no experience.
  have hzero : start.experience "p" = 0 := by decide +kernel
  have hne : "p" ≠ "" := by decide
  have htold := Service.reward_named hopen hne 150
  rw [hdone, hzero, show Experience.add 0 150 = 150 by decide +kernel] at htold
  refine ⟨hopen, hnamed, awards, after, hrewarded.run_eq, hrewarded.awardsEach.size, ?_,
    found, hfound, ?_⟩
  · rw [haward, Outcome.done.inj htold]
  · exact hsize.trans (by decide)

/-- On an open backend, whatever documents there are, and whatever the order in which the rewards of
a game are visited: they fail exactly if there is a player without a name among them, and for that
reason only. Then each player before that one has been rewarded as by the reward alone, and no other
slot is changed. -/
theorem LevelService.rewardGame_nameless {start : Service Memory}
    (hopen : start.state.isOpen = true) (rewards : NameMap Int64) :
    ((∃ error, ((rewardGame rewards).run backend start).1 = .failed error) ↔
      ∃ amount, rewards.get? "" = some amount) ∧
    ∀ error, ((rewardGame rewards).run backend start).1 = .failed error →
      error = .emptyKey "PlayerLevelData" "playerId" ∧
        ∃ earlier amount later, Reward.ofGame rewards = earlier ++ ⟨"", amount⟩ :: later ∧
          start.RewardedEach ((rewardGame rewards).run backend start).2 earlier := by
  cases hnameless : rewards.get? "" with
  | none =>
    obtain ⟨awards, after, hrun, -⟩ := run_rewardGame hopen hnameless
    simp [hrun]
  | some amount =>
    obtain ⟨earlier, later, hgame, hrun, heach⟩ := run_rewardGame_of_nameless hopen hnameless
    refine ⟨⟨fun _ => ⟨amount, rfl⟩, fun _ => ⟨_, hrun⟩⟩, fun error herror => ⟨?_, ?_⟩⟩
    · exact (Outcome.failed.inj (hrun.symm.trans herror)).symm
    · exact ⟨earlier, amount, later, hgame, heach⟩

/-- Of three players the one without a name is visited in the middle. -/
theorem LevelService.rewardGame_nameless_middle :
    let start := Service.on Memory.fresh .collect
    let rewards : NameMap Int64 := .ofList [("q", 7), ("", 1), ("p", 150)]
    start.state.isOpen = true ∧
      ∃ error, ((rewardGame rewards).run backend start).1 = .failed error ∧
        ((rewardGame rewards).run backend start).2.AgreeAt (PlayerLevel.slot "p")
          (start.reward ⟨"p", 150⟩).2 ∧
        ((rewardGame rewards).run backend start).2.state.get? (PlayerLevel.slot "q") = none := by
  intro start rewards
  have hopen : start.state.isOpen = true := rfl
  obtain ⟨hfails, hkept⟩ := rewardGame_nameless hopen rewards
  obtain ⟨error, herror⟩ := hfails.mpr ⟨1, rfl⟩
  obtain ⟨-, earlier, amount, later, hgame, heach⟩ := hkept error herror
  -- The rewards before the one for nobody are those for the first player.
  obtain rfl : earlier = [⟨"p", 150⟩] := by
    change [⟨"p", 150⟩, ⟨"", 1⟩, ⟨"q", 7⟩] = earlier ++ ⟨"", amount⟩ :: later at hgame
    match earlier with
    | [] | [first, second] | first :: second :: third :: rest => simp at hgame
    | [first] =>
      simp only [List.cons_append, List.cons.injEq] at hgame
      rw [hgame.1]
  refine ⟨hopen, error, herror, heach.rewarded ⟨"p", 150⟩ (by simp), ?_⟩
  exact (heach.others (PlayerLevel.slot "q") (by simp [PlayerLevel.slot])).state.get?

/-- It is not true that rewards of a game that fail leave all documents as they were. -/
theorem LevelService.not_forall_rewardGame_keeps :
    ¬ ∀ (start : Service Memory) (rewards : NameMap Int64), start.state.isOpen = true →
      ∀ error, ((rewardGame rewards).run backend start).1 = .failed error →
        ((rewardGame rewards).run backend start).2.state.Alike start.state := by
  intro h
  let start := Service.on Memory.fresh .collect
  let rewards : NameMap Int64 := .ofList [("", 1), ("p", 1)]
  have hopen : start.state.isOpen = true := rfl
  have hnameless : rewards.get? "" = some 1 := rfl
  obtain ⟨-, -, -, hfailed, -⟩ := run_rewardGame_of_nameless hopen hnameless
  obtain ⟨-, hget⟩ := h start rewards rfl _ hfailed
  -- There was no document, and now there is one.
  have hthere : (((rewardGame rewards).run backend start).2.state.get?
      (PlayerLevel.slot "p")).isSome = true := by
    decide +kernel
  rw [hget] at hthere
  exact absurd hthere (by decide)

end KeyedStore
