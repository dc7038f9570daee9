import PredictX.PollFreeze
import PredictX.Views

namespace PredictX.Chronology

open PredictX.Bookkeeping
open PredictX.CommittedCalls
open PredictX.HostCall
open PredictX.Identifiers
open PredictX.MarketStorage
open PredictX.PollFreeze
open PredictX.PredictionMarket
open PredictX.SharedTypes
open PredictX.System
open PredictX.TokenContracts
open PredictX.Views

variable {N : Network}

/-- When the poll was created, or zero. -/
def createdAt (m : Market) (pollId : ℕ) : ℕ := ((m.polls.lookup pollId).map (·.createdAt)).getD 0

/-- When the user staked on the poll, or zero. -/
def stakedAt (m : Market) (user : Address) (pollId : ℕ) : ℕ :=
  ((m.stakes.lookup (pollId, user)).map (·.stakedAt)).getD 0

structure Chronological (w : World N) : Prop where
  polls : ∀ p q, p < q → q ∈ w.market.polls → createdAt w.market p ≤ createdAt w.market q
  created_past : ∀ p, createdAt w.market p ≤ w.now
  staked_past : ∀ user p, stakedAt w.market user p ≤ w.now
  stakes : ∀ user, (w.market.userStakesOf user).Pairwise fun p q =>
    stakedAt w.market user p ≤ stakedAt w.market user q

theorem Chronological.idle {w w' : World N} (h : Chronological w)
    (hpolls : w'.market.polls = w.market.polls) (hstakes : w'.market.stakes = w.market.stakes)
    (hlists : w'.market.userStakes = w.market.userStakes) (hnow : w.now ≤ w'.now) :
    Chronological w' := by
  have hcreated : createdAt w'.market = createdAt w.market := by
    funext p
    rw [createdAt, hpolls, createdAt]
  have hstaked : stakedAt w'.market = stakedAt w.market := by
    funext user p
    rw [stakedAt, hstakes, stakedAt]
  constructor
  · rw [hpolls, hcreated]
    exact h.polls
  · intro p
    rw [hcreated]
    exact (h.created_past p).trans hnow
  · intro user p
    rw [hstaked]
    exact (h.staked_past user p).trans hnow
  · intro user
    rw [hstaked, Market.userStakesOf, hlists]
    exact h.stakes user

theorem createdAt_pollAdded (m : Market) (poll : Poll) (p : ℕ) :
    createdAt (pollAddedMarket m poll) p = if p = poll.pollId then poll.createdAt
      else createdAt m p := by
  rw [createdAt, polls_pollAdded]
  split
  · rfl
  · rfl

theorem createdAt_staked {m : Market} {poll : Poll} {record : Stake}
    (found : m.polls.lookup record.pollId = some poll) :
    createdAt (stakedMarket m poll record) = createdAt m := by
  funext p
  rw [createdAt, polls_staked]
  split
  · rename_i heq
    rw [heq, createdAt, found, Option.map_some, Option.map_some, createdAt_credited]
  · rfl

theorem stakedAt_staked (m : Market) (poll : Poll) (record : Stake) (user : Address) (p : ℕ) :
    stakedAt (stakedMarket m poll record) user p =
      if (p, user) = (record.pollId, record.user) then record.stakedAt else stakedAt m user p := by
  rw [stakedAt, stakes_staked]
  split
  · rfl
  · rfl

theorem Chronological.created {w : World N} (h : Chronological w)
    (hcons : Consistent N.market w.market) {poll : Poll}
    (pollId_eq : poll.pollId = w.market.nextPollId.getD 1) (createdAt_eq : poll.createdAt = w.now) :
    Chronological { w with market := pollAddedMarket w.market poll } := by
  have hpast : ∀ p, createdAt (pollAddedMarket w.market poll) p ≤ w.now := by
    intro p
    rw [createdAt_pollAdded]
    split
    · exact createdAt_eq.le
    · exact h.created_past p
  refine ⟨?_, hpast, h.staked_past, h.stakes⟩
  intro p q hpq hq
  change createdAt (pollAddedMarket w.market poll) p ≤ createdAt (pollAddedMarket w.market poll) q
  rcases Finmap.mem_insert.mp hq with hnew | hold
  · rw [createdAt_pollAdded w.market poll q, if_pos hnew, createdAt_eq]
    exact hpast p
  · obtain ⟨old, hlookup⟩ := Finmap.mem_iff.mp hold
    have hbelow := (hcons.poll q old hlookup).below
    rw [createdAt_pollAdded, createdAt_pollAdded, if_neg (by omega), if_neg (by omega)]
    exact h.polls p q hpq hold

theorem Chronological.appended {w : World N} (h : Chronological w) {poll : Poll} {record : Stake}
    (hunlisted : record.pollId ∉ w.market.userStakesOf record.user)
    (stakedAt_eq : record.stakedAt = w.now) (user : Address) :
    ((stakedMarket w.market poll record).userStakesOf user).Pairwise fun p q =>
      stakedAt (stakedMarket w.market poll record) user p ≤
        stakedAt (stakedMarket w.market poll record) user q := by
  have hold : ∀ p, p ≠ record.pollId ∨ user ≠ record.user →
      stakedAt (stakedMarket w.market poll record) user p = stakedAt w.market user p := by
    intro p hother
    rw [stakedAt_staked, if_neg]
    rintro ⟨⟩
    exact hother.elim (· rfl) (· rfl)
  rw [userStakesOf_staked]
  split
  · rename_i huser
    subst huser
    have hother : ∀ p ∈ w.market.userStakesOf record.user, p ≠ record.pollId := by
      rintro p hp rfl
      exact hunlisted hp
    rw [List.pairwise_append]
    refine ⟨?_, List.pairwise_singleton _ _, ?_⟩
    · refine (h.stakes record.user).imp_of_mem ?_
      intro p q hp hq hle
      rw [hold p (.inl (hother p hp)), hold q (.inl (hother q hq))]
      exact hle
    · intro p hp q hq
      rw [List.mem_singleton.mp hq, hold p (.inl (hother p hp)), stakedAt_staked, if_pos rfl,
        stakedAt_eq]
      exact h.staked_past record.user p
  · rename_i huser
    refine (h.stakes user).imp ?_
    intro p q hle
    rw [hold p (.inr huser), hold q (.inr huser)]
    exact hle

theorem Chronological.staked {w : World N} (h : Chronological w)
    (hcons : Consistent N.market w.market) {poll : Poll} {record : Stake}
    (found : w.market.polls.lookup record.pollId = some poll)
    (fresh : (record.pollId, record.user) ∉ w.market.hasStaked)
    (stakedAt_eq : record.stakedAt = w.now) :
    Chronological { w with market := stakedMarket w.market poll record } := by
  constructor
  · intro p q hpq hq
    change createdAt (stakedMarket w.market poll record) p ≤
      createdAt (stakedMarket w.market poll record) q
    rw [createdAt_staked found]
    refine h.polls p q hpq ?_
    rcases Finmap.mem_insert.mp hq with rfl | hold
    · exact Finmap.mem_of_lookup_eq_some found
    · exact hold
  · intro p
    change createdAt (stakedMarket w.market poll record) p ≤ w.now
    rw [createdAt_staked found]
    exact h.created_past p
  · intro user p
    change stakedAt (stakedMarket w.market poll record) user p ≤ w.now
    rw [stakedAt_staked]
    split
    · exact stakedAt_eq.le
    · exact h.staked_past user p
  · apply h.appended _ stakedAt_eq
    rw [hcons.listed_iff, ← hcons.hasStaked_iff]
    exact fresh

theorem chronological_step {w w' : World N} {a : Action N} {reply : Reply PredictXError Value}
    (hcons : Consistent N.market w.market) (hstep : Step w a reply w') (h : Chronological w) :
    Chronological w' := by
  cases hstep with
  | elapse => exact h.idle rfl rfl rfl (Nat.le_add_right _ _)
  | market committed =>
      cases committed with
      | createPoll _ _ _ _ _ _ _ poll_eq =>
          subst poll_eq
          exact (h.created hcons rfl rfl).idle rfl rfl rfl le_rfl
      | stake _ _ _ poll_found _ _ fresh _ _ _ record_eq =>
          subst record_eq
          exact (h.staked hcons poll_found fresh rfl).idle rfl rfl rfl le_rfl
      | _ => exact h.idle rfl rfl rfl le_rfl
  | _ => exact h.idle rfl rfl rfl le_rfl

theorem chronological_run (x : Execution N) : Chronological x.final := by
  refine invariant_final x ⟨?_, ?_, ?_, ?_⟩ chronological_step
  · intro p q _ hq
    exact absurd hq Finmap.notMem_empty
  · simp [genesis, Market.deployed, createdAt]
  · simp [genesis, Market.deployed, stakedAt]
  · simp [genesis, Market.deployed, Market.userStakesOf]

theorem createdAt_eq {w : World N} {p : ℕ} {poll : Poll} (h : ask w (.getPoll p) = .ok poll) :
    p ∈ w.market.polls ∧ createdAt w.market p = poll.createdAt := by
  rw [ask_getPoll, unwrap_eq_ok] at h
  refine ⟨Finmap.mem_of_lookup_eq_some h, ?_⟩
  rw [createdAt, h, Option.map_some, Option.getD_some]

theorem stakedAt_eq {w : World N} {p : ℕ} {user : Address} {record : Stake}
    (h : ask w (.getStakeInfo p user) = .ok record) :
    stakedAt w.market user p = record.stakedAt := by
  rw [ask_getStakeInfo, unwrap_eq_ok] at h
  rw [stakedAt, h, Option.map_some, Option.getD_some]

/-- In every reachable state polls with a higher id were not created earlier,
`get_match_polls` lists the polls of a match in the order of their creation, and
`get_user_stakes` those of a user in the order the user staked on them. -/
theorem chronology (x : Execution N) :
    (∀ p q poll poll', p < q → ask x.final (.getPoll p) = .ok poll →
      ask x.final (.getPoll q) = .ok poll' → poll.createdAt ≤ poll'.createdAt) ∧
      (∀ matchId ids, ask x.final (.getMatchPolls matchId) = .ok ids → ids.Pairwise fun p q =>
        ∀ poll poll', ask x.final (.getPoll p) = .ok poll →
          ask x.final (.getPoll q) = .ok poll' → poll.createdAt ≤ poll'.createdAt) ∧
      ∀ user ids, ask x.final (.getUserStakes user) = .ok ids → ids.Pairwise fun p q =>
        ∀ record record', ask x.final (.getStakeInfo p user) = .ok record →
          ask x.final (.getStakeInfo q user) = .ok record' →
            record.stakedAt ≤ record'.stakedAt := by
  have hchron := chronological_run x
  have hpolls : ∀ p q poll poll', p < q → ask x.final (.getPoll p) = .ok poll →
      ask x.final (.getPoll q) = .ok poll' → poll.createdAt ≤ poll'.createdAt := by
    intro p q poll poll' hpq hp hq
    obtain ⟨-, hcreated⟩ := createdAt_eq hp
    obtain ⟨hstored, hcreated'⟩ := createdAt_eq hq
    rw [← hcreated, ← hcreated']
    exact hchron.polls p q hpq hstored
  refine ⟨hpolls, ?_, ?_⟩
  · intro matchId ids hids
    obtain ⟨-, rfl⟩ := query_getMatchPolls.mp hids
    refine ((numbered_run x).increasing matchId).imp ?_
    intro p q hpq poll poll'
    exact hpolls p q poll poll' hpq
  · intro user ids hids
    obtain rfl : x.final.market.userStakesOf user = ids := Reply.ok.inj hids
    refine (hchron.stakes user).imp ?_
    intro p q hle record record' hp hq
    rw [← stakedAt_eq hp, ← stakedAt_eq hq]
    exact hle

end PredictX.Chronology
