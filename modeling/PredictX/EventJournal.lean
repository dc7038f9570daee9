import PredictX.Bookkeeping

namespace PredictX.EventJournal

open PredictX.Bookkeeping
open PredictX.CommittedCalls
open PredictX.FiniteStore
open PredictX.HostCall
open PredictX.MarketStorage
open PredictX.PredictionMarket
open PredictX.SharedTypes
open PredictX.Staking
open PredictX.System
open PredictX.TokenContracts

variable {N : Network}

/-- What can be read off the events. -/
structure Journal where
  matchRecords : Store ℕ Match
  paused : Bool
  stakes : Store (ℕ × Address) (ℤ × StakeSide)
  pool : ℕ → StakeSide → ℤ
  count : ℕ → StakeSide → ℕ
  userStakes : Address → List ℕ
  placed : ℕ
  claimed : Finset (ℕ × Address)
  locked : ℤ
  pollIds : List ℕ

def Journal.blank : Journal where
  matchRecords := ∅
  paused := false
  stakes := ∅
  pool := fun _ _ => 0
  count := fun _ _ => 0
  userStakes := fun _ => []
  placed := 0
  claimed := ∅
  locked := 0
  pollIds := []

/-- Read one more event. -/
def Journal.post (j : Journal) : Event → Journal
  | .contractPaused => { j with paused := true }
  | .contractUnpaused => { j with paused := false }
  | .pollCancelled _ => j
  | .emergencyWithdrawal pollId user amount =>
      { j with
        claimed := insert (pollId, user) j.claimed
        locked := j.locked - amount }
  | .pollCreated pollId => { j with pollIds := j.pollIds ++ [pollId] }
  | .stakePlaced pollId staker amount side =>
      { j with
        stakes := j.stakes.insert (pollId, staker) (amount, side)
        pool := fun p s => j.pool p s + if p = pollId ∧ s = side then amount else 0
        count := fun p s => j.count p s + if p = pollId ∧ s = side then 1 else 0
        userStakes := fun u => j.userStakes u ++ if u = staker then [pollId] else []
        placed := j.placed + 1
        locked := j.locked + amount }
  | .matchCreated matchId m | .matchUpdated matchId m =>
      { j with matchRecords := j.matchRecords.insert matchId m }
  | .matchFinished matchId =>
      match j.matchRecords.lookup matchId with
      | some m => { j with
          matchRecords := j.matchRecords.insert matchId { m with isFinished := true } }
      | none => j

def journal (events : List Event) : Journal := events.foldl Journal.post .blank

theorem journal_concat (events : List Event) (event : Event) :
    journal (events ++ [event]) = (journal events).post event :=
  List.foldl_concat _ _ _ _

/-- The journal says what the market's storage says. -/
structure Rebuilds (j : Journal) (m : Market) : Prop where
  matchRecords : j.matchRecords = m.matchRecords
  paused : j.paused = m.isPaused
  stakes : ∀ pollId user, j.stakes.lookup (pollId, user) =
    (m.stakes.lookup (pollId, user)).map fun record => (record.amount, record.side)
  pool_eq : ∀ pollId side, j.pool pollId side =
    ((m.polls.lookup pollId).map (poolOnSide · side)).getD 0
  count_eq : ∀ pollId side, j.count pollId side =
    ((m.polls.lookup pollId).map (count · side)).getD 0
  userStakes : ∀ user, j.userStakes user = m.userStakesOf user
  placed : j.placed = m.stats.totalStakesPlaced
  claimed : ∀ pollId user, m.emergencyClaimed.lookup (pollId, user) =
    if (pollId, user) ∈ j.claimed then some true else none
  locked : j.locked = m.stats.totalValueLocked
  created : j.pollIds.length = m.stats.totalPollsCreated
  pollIds : ∀ pollId, pollId ∈ j.pollIds ↔ pollId ∈ m.polls

theorem rebuilds_deployed : Rebuilds .blank .deployed where
  matchRecords := rfl
  paused := rfl
  stakes := by simp [Journal.blank, Market.deployed]
  pool_eq := by simp [Journal.blank, Market.deployed]
  count_eq := by simp [Journal.blank, Market.deployed]
  userStakes := fun _ => rfl
  placed := rfl
  claimed := by simp [Journal.blank, Market.deployed]
  locked := rfl
  created := rfl
  pollIds := by simp [Journal.blank, Market.deployed, Finmap.notMem_empty]

section Events

variable {j : Journal} {m : Market}

theorem Rebuilds.matchPosted (h : Rebuilds j m) (matchId : ℕ) (m' : Match) :
    Rebuilds { j with matchRecords := j.matchRecords.insert matchId m' }
      { m with matchRecords := m.matchRecords.insert matchId m' } :=
  { h with
    matchRecords := by
      change j.matchRecords.insert matchId m' = _
      rw [h.matchRecords] }

theorem Rebuilds.matchFinished (h : Rebuilds j m) {matchId : ℕ} {m' : Match}
    (match_found : m.matchRecords.lookup matchId = some m') :
    Rebuilds (j.post (.matchFinished matchId))
      { m with matchRecords := m.matchRecords.insert matchId { m' with isFinished := true } } := by
  rw [← h.matchRecords] at match_found
  simp only [Journal.post, match_found]
  exact h.matchPosted matchId _

theorem Rebuilds.stakePlaced (h : Rebuilds j m) {poll : Poll} (record : Stake)
    (poll_found : m.polls.lookup record.pollId = some poll) :
    Rebuilds (j.post (.stakePlaced record.pollId record.user record.amount record.side))
      (stakedMarket m poll record) where
  matchRecords := h.matchRecords
  paused := h.paused
  stakes := by
    intro pollId user
    rw [stakes_staked]
    simp only [Journal.post, lookup_insert_eq, h.stakes]
    split <;> rfl
  pool_eq := by
    intro pollId side
    rw [polls_staked]
    simp only [Journal.post, h.pool_eq]
    by_cases hpoll : pollId = record.pollId
    · subst hpoll
      simp [poll_found, pool_credited, eq_comm]
    · simp [hpoll]
  count_eq := by
    intro pollId side
    rw [polls_staked]
    simp only [Journal.post, h.count_eq]
    by_cases hpoll : pollId = record.pollId
    · subst hpoll
      simp [poll_found, count_credited, eq_comm]
    · simp [hpoll]
  userStakes := by
    intro user
    rw [userStakesOf_staked]
    simp only [Journal.post, h.userStakes]
    split
    · rename_i huser
      rw [huser]
    · exact List.append_nil _
  placed := congrArg (· + 1) h.placed
  claimed := h.claimed
  locked := congrArg (· + record.amount) h.locked
  created := h.created
  pollIds := by
    intro pollId
    exact (h.pollIds pollId).trans (mem_insert_of_lookup poll_found _ pollId).symm

theorem Rebuilds.emergencyWithdrawal (h : Rebuilds j m) (pollId : ℕ) (user : Address)
    (amount : ℤ) : Rebuilds (j.post (.emergencyWithdrawal pollId user amount))
      (refundedMarket m user pollId amount) :=
  { h with
    claimed := by
      intro pollId' user'
      simp only [Journal.post, refundedMarket, lookup_insert_eq, Finset.mem_insert, h.claimed]
      by_cases hkey : (pollId', user') = (pollId, user)
      · simp [hkey]
      · simp [hkey]
    locked := congrArg (· - amount) h.locked }

theorem Rebuilds.pollCreated (h : Rebuilds j m) {poll : Poll}
    (fresh : m.polls.lookup poll.pollId = none)
    (empty : ∀ side, poolOnSide poll side = 0 ∧ count poll side = 0) :
    Rebuilds (j.post (.pollCreated poll.pollId)) (pollAddedMarket m poll) :=
  { h with
    pool_eq := by
      intro pollId side
      rw [polls_pollAdded]
      simp only [Journal.post, h.pool_eq]
      split
      · rename_i hpoll
        subst hpoll
        simp [fresh, (empty side).1]
      · rfl
    count_eq := by
      intro pollId side
      rw [polls_pollAdded]
      simp only [Journal.post, h.count_eq]
      split
      · rename_i hpoll
        subst hpoll
        simp [fresh, (empty side).2]
      · rfl
    created := by
      change (j.pollIds ++ [poll.pollId]).length = m.stats.totalPollsCreated + 1
      rw [List.length_append, h.created, List.length_singleton]
    pollIds := by
      intro pollId
      change pollId ∈ j.pollIds ++ [poll.pollId] ↔ pollId ∈ m.polls.insert poll.pollId poll
      rw [List.mem_append, h.pollIds, Finmap.mem_insert, List.mem_singleton, or_comm] }

end Events

theorem journal_step {w w' : World N} {a : Action N} {reply : Reply PredictXError Value}
    (hcons : Consistent N.market w.market) (hstep : Step w a reply w')
    (h : Rebuilds (journal w.events) w.market) : Rebuilds (journal w'.events) w'.market := by
  cases hstep with
  | market committed =>
      cases committed with
      | initializeMarket => exact { h with }
      | setOracle => exact { h with }
      | pause =>
          rw [journal_concat]
          exact { h with paused := rfl }
      | unpause =>
          rw [journal_concat]
          exact { h with paused := rfl }
      | cancelPoll =>
          -- The event is about the oracle: the market stores nothing of a cancellation.
          rw [journal_concat]
          exact h
      | emergencyWithdraw =>
          rw [journal_concat]
          exact h.emergencyWithdrawal _ _ _
      | @createPoll _ _ _ _ _ _ poll _ _ _ _ _ _ _ poll_eq =>
          rw [journal_concat]
          refine h.pollCreated ?_ ?_
          · subst poll_eq
            exact hcons.polls_fresh rfl
          · intro side
            rw [poll_eq]
            cases side <;> exact ⟨rfl, rfl⟩
      | stake _ _ _ poll_found _ _ _ _ _ _ record_eq =>
          rw [journal_concat]
          subst record_eq
          exact h.stakePlaced ⟨_, _, _, _, _, _⟩ poll_found
      | createMatch =>
          rw [journal_concat]
          exact { h.matchPosted _ _ with }
      | updateMatch =>
          rw [journal_concat]
          exact h.matchPosted _ _
      | finishMatch _ _ match_found =>
          rw [journal_concat]
          exact h.matchFinished match_found
  | _ => exact h

/-- In every reachable state the events published so far, read in order, give
back matches, pause flag, stakes, pools, lists, claims and totals. -/
theorem event_journal (x : Execution N) :
    Rebuilds (journal x.final.events) x.final.market ∧
      ∀ pollId user record, x.final.market.stakes.lookup (pollId, user) = some record →
        record.pollId = pollId ∧ record.user = user := by
  refine ⟨invariant_final (P := fun w : World N => Rebuilds (journal w.events) w.market) x
    rebuilds_deployed journal_step, ?_⟩
  intro pollId user record hrecord
  have hok := (consistent_run x).record pollId user record hrecord
  exact ⟨hok.pollId_eq, hok.user_eq⟩

end PredictX.EventJournal
