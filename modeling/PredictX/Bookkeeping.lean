import Mathlib.Algebra.Order.Ring.Int
import PredictX.System

namespace PredictX.Bookkeeping

open PredictX.CommittedCalls
open PredictX.FiniteStore
open PredictX.LabelledRuns
open PredictX.MarketStorage
open PredictX.PredictionMarket
open PredictX.SharedTypes
open PredictX.SorobanHost
open PredictX.Staking
open PredictX.System
open PredictX.TokenContracts

def count (poll : Poll) : StakeSide → ℕ
  | .yes => poll.yesCount
  | .no => poll.noCount

/-- The amount of a stake, if it is on this side of this poll. -/
def sideAmount (pollId : ℕ) (side : StakeSide) (k : ℕ × Address) (record : Stake) : ℤ :=
  if k.1 = pollId ∧ record.side = side then record.amount else 0

def sideCount (pollId : ℕ) (side : StakeSide) (k : ℕ × Address) (record : Stake) : ℕ :=
  if k.1 = pollId ∧ record.side = side then 1 else 0

def stakeAmount (_ : ℕ × Address) (record : Stake) : ℤ := record.amount

/-- The amount of a stake that was not paid back. -/
def unclaimedAmount (m : Market) (k : ℕ × Address) (record : Stake) : ℤ :=
  if m.hasEmergencyClaimed k.1 k.2 = true then 0 else record.amount

def pollPools (_ : ℕ) (poll : Poll) : ℤ := poll.yesPool + poll.noPool

def pollCounts (_ : ℕ) (poll : Poll) : ℕ := poll.yesCount + poll.noCount

/-- A stored stake agrees with its key, and was placed on a stored poll by
somebody other than the market. -/
structure RecordOk (contract : Address) (polls : Store ℕ Poll) (pollId : ℕ) (user : Address)
    (record : Stake) : Prop where
  pollId_eq : record.pollId = pollId
  user_eq : record.user = user
  minimum : minStakeAmount ≤ record.amount
  poll_found : pollId ∈ polls
  not_self : user ≠ contract

theorem RecordOk.positive {contract : Address} {polls : Store ℕ Poll} {pollId : ℕ}
    {user : Address} {record : Stake} (h : RecordOk contract polls pollId user record) :
    0 < record.amount :=
  pos_of_minimum h.minimum

/-- A stored poll has an id below the counter and sums up the stakes on it. -/
structure PollOk (nextPollId : ℕ) (stakes : Store (ℕ × Address) Stake) (pollId : ℕ)
    (poll : Poll) : Prop where
  below : pollId < nextPollId
  pool_eq : ∀ side, poolOnSide poll side = total (sideAmount pollId side) stakes
  count_eq : ∀ side, count poll side = total (sideCount pollId side) stakes

/-- The entries of a market at the address `contract` fit together. -/
structure Consistent (contract : Address) (m : Market) : Prop where
  unconfigured : m.admin = none → m.matchRecords = ∅ ∧ m.polls = ∅
  matches_below : ∀ matchId m', m.matchRecords.lookup matchId = some m' →
    matchId < m.nextMatchId.getD 1
  configured : m.tokenAddress = none ↔ m.admin = none
  oracle_configured : m.votingOracle = none ↔ m.admin = none
  hasStaked_iff : ∀ k, k ∈ m.hasStaked ↔ k ∈ m.stakes
  listed_iff : ∀ pollId user, pollId ∈ m.userStakesOf user ↔ (pollId, user) ∈ m.stakes
  listed_once : ∀ user, (m.userStakesOf user).Nodup
  record : ∀ pollId user record, m.stakes.lookup (pollId, user) = some record →
    RecordOk contract m.polls pollId user record
  poll : ∀ pollId poll, m.polls.lookup pollId = some poll →
    PollOk (m.nextPollId.getD 1) m.stakes pollId poll
  placed : m.stats.totalStakesPlaced = total pollCounts m.polls
  pools : total pollPools m.polls = total stakeAmount m.stakes
  claimed : ∀ pollId user, m.hasEmergencyClaimed pollId user = true → (pollId, user) ∈ m.stakes
  locked : m.stats.totalValueLocked = total (unclaimedAmount m) m.stakes
  locked_fits : InI128 m.stats.totalValueLocked

theorem consistent_deployed (contract : Address) : Consistent contract .deployed where
  unconfigured := fun _ => ⟨rfl, rfl⟩
  matches_below := by simp [Market.deployed]
  configured := by simp [Market.deployed]
  oracle_configured := by simp [Market.deployed]
  hasStaked_iff := by simp [Market.deployed, Finmap.notMem_empty]
  listed_iff := by simp [Market.userStakesOf, Market.deployed, Finmap.notMem_empty]
  listed_once := by simp [Market.userStakesOf, Market.deployed]
  record := by simp [Market.deployed]
  poll := by simp [Market.deployed]
  placed := by simp [Market.deployed, Market.stats]
  pools := by simp [Market.deployed]
  claimed := by simp [Market.hasEmergencyClaimed, Market.deployed]
  locked := by simp [Market.deployed, Market.stats]
  locked_fits := by simp [Market.deployed, Market.stats, InI128]

section Credited

variable (poll : Poll) (amount : ℤ) (side side' : StakeSide)

theorem pool_credited : poolOnSide (credited poll amount side) side' =
    poolOnSide poll side' + if side = side' then amount else 0 := by
  cases side <;> cases side' <;> simp [poolOnSide, credited]

theorem count_credited : count (credited poll amount side) side' =
    count poll side' + if side = side' then 1 else 0 := by
  cases side <;> cases side' <;> simp [count, credited]

theorem pollPools_credited (pollId : ℕ) :
    pollPools pollId (credited poll amount side) = pollPools pollId poll + amount := by
  cases side <;> simp [pollPools, credited] <;> omega

theorem pollCounts_credited (pollId : ℕ) :
    pollCounts pollId (credited poll amount side) = pollCounts pollId poll + 1 := by
  cases side <;> simp [pollCounts, credited] <;> omega

end Credited

section Operations

variable {contract : Address} {m : Market}

theorem Consistent.stakes_fresh (h : Consistent contract m) {k : ℕ × Address}
    (fresh : k ∉ m.hasStaked) : m.stakes.lookup k = none := by
  rw [Finmap.lookup_eq_none, ← h.hasStaked_iff]
  exact fresh

theorem Consistent.unclaimed_fresh (h : Consistent contract m) {pollId : ℕ} {user : Address}
    (fresh : m.stakes.lookup (pollId, user) = none) :
    m.hasEmergencyClaimed pollId user = false := by
  rw [Bool.eq_false_iff]
  intro hclaimed
  exact Finmap.lookup_eq_none.mp fresh (h.claimed pollId user hclaimed)

theorem userStakesOf_staked (m : Market) (poll : Poll) (record : Stake) (user : Address) :
    (stakedMarket m poll record).userStakesOf user =
      if user = record.user then m.userStakesOf record.user ++ [record.pollId]
      else m.userStakesOf user := by
  simp only [Market.userStakesOf, stakedMarket, lookup_insert_eq]
  split <;> rfl

theorem PollOk.staked {n : ℕ} {stakes : Store (ℕ × Address) Stake} {poll : Poll}
    {record : Stake} {pollId : ℕ} (h : PollOk n stakes pollId poll)
    (fresh : stakes.lookup (record.pollId, record.user) = none) :
    PollOk n (stakes.insert (record.pollId, record.user) record) pollId
      (if pollId = record.pollId then credited poll record.amount record.side else poll) where
  below := h.below
  pool_eq := by
    intro side
    rw [total_insert_new _ _ fresh, ← h.pool_eq, sideAmount]
    by_cases hpoll : pollId = record.pollId
    · simp [hpoll, pool_credited]
    · simp [hpoll, Ne.symm hpoll]
  count_eq := by
    intro side
    rw [total_insert_new _ _ fresh, ← h.count_eq, sideCount]
    by_cases hpoll : pollId = record.pollId
    · simp [hpoll, count_credited]
    · simp [hpoll, Ne.symm hpoll]

section Staked

variable {poll : Poll} {record : Stake}

theorem Consistent.listed_once_staked (h : Consistent contract m)
    (hnone : m.stakes.lookup (record.pollId, record.user) = none) (user : Address) :
    ((stakedMarket m poll record).userStakesOf user).Nodup := by
  rw [userStakesOf_staked]
  split
  · refine List.nodup_append.mpr ⟨h.listed_once _, List.nodup_singleton _, ?_⟩
    rintro p hp q hq rfl
    rw [List.mem_singleton.mp hq, h.listed_iff] at hp
    exact Finmap.lookup_eq_none.mp hnone hp
  · exact h.listed_once user

theorem Consistent.record_staked (h : Consistent contract m)
    (poll_found : m.polls.lookup record.pollId = some poll)
    (minimum : minStakeAmount ≤ record.amount) (not_self : record.user ≠ contract)
    {pollId : ℕ} {user : Address} {record' : Stake}
    (hlookup : (stakedMarket m poll record).stakes.lookup (pollId, user) = some record') :
    RecordOk contract (stakedMarket m poll record).polls pollId user record' := by
  have hpolls : ∀ p ∈ m.polls, p ∈ (stakedMarket m poll record).polls := by
    intro p hp
    simp [stakedMarket, hp]
  rw [stakes_staked] at hlookup
  split at hlookup
  · rename_i hkey
    obtain ⟨rfl, rfl⟩ := Prod.mk.inj hkey
    cases hlookup
    exact ⟨rfl, rfl, minimum, hpolls _ (Finmap.mem_of_lookup_eq_some poll_found), not_self⟩
  · have hold := h.record pollId user record' hlookup
    exact { hold with poll_found := hpolls _ hold.poll_found }

theorem Consistent.poll_staked (h : Consistent contract m)
    (poll_found : m.polls.lookup record.pollId = some poll)
    (hnone : m.stakes.lookup (record.pollId, record.user) = none) {pollId : ℕ} {poll' : Poll}
    (hlookup : (stakedMarket m poll record).polls.lookup pollId = some poll') :
    PollOk (m.nextPollId.getD 1) (stakedMarket m poll record).stakes pollId poll' := by
  rw [polls_staked] at hlookup
  by_cases hpoll : pollId = record.pollId
  · subst hpoll
    rw [if_pos rfl] at hlookup
    cases hlookup
    have hcredited := (h.poll _ poll poll_found).staked hnone
    rw [if_pos rfl] at hcredited
    exact hcredited
  · rw [if_neg hpoll] at hlookup
    have hother := (h.poll _ poll' hlookup).staked hnone
    rw [if_neg hpoll] at hother
    exact hother

theorem Consistent.staked (h : Consistent contract m)
    (poll_found : m.polls.lookup record.pollId = some poll)
    (fresh : (record.pollId, record.user) ∉ m.hasStaked)
    (minimum : minStakeAmount ≤ record.amount) (not_self : record.user ≠ contract)
    (locked_fits : InI128 (m.stats.totalValueLocked + record.amount)) :
    Consistent contract (stakedMarket m poll record) := by
  have hnone := h.stakes_fresh fresh
  have hunclaimed := h.unclaimed_fresh hnone
  refine { h with
    unconfigured := ?_, hasStaked_iff := ?_, listed_iff := ?_
    listed_once := h.listed_once_staked hnone
    record := fun _ _ _ hlookup => h.record_staked poll_found minimum not_self hlookup
    poll := fun _ _ hlookup => h.poll_staked poll_found hnone hlookup
    placed := ?_, pools := ?_, claimed := ?_, locked := ?_, locked_fits := locked_fits }
  · intro hadmin
    have hempty := (h.unconfigured hadmin).2
    rw [hempty] at poll_found
    simp at poll_found
  · intro k
    simp [stakedMarket, Finmap.mem_insert, h.hasStaked_iff]
  · intro pollId user
    rw [userStakesOf_staked]
    split
    · rename_i huser
      subst huser
      simp [stakedMarket, h.listed_iff, or_comm]
    · rename_i huser
      simp [stakedMarket, h.listed_iff, huser]
  · change m.stats.totalStakesPlaced + 1 = total pollCounts (m.polls.insert record.pollId _)
    rw [total_insert_gain poll_found (pollCounts_credited _ _ _ _), h.placed]
  · change total pollPools (m.polls.insert record.pollId _) =
      total stakeAmount (m.stakes.insert _ _)
    rw [total_insert_gain poll_found (pollPools_credited _ _ _ _), total_insert_new _ _ hnone,
      h.pools, stakeAmount]
  · intro pollId user hclaimed
    simp [stakedMarket, h.claimed pollId user hclaimed]
  · change m.stats.totalValueLocked + record.amount =
      total (unclaimedAmount m) (m.stakes.insert _ _)
    rw [total_insert_new _ _ hnone, h.locked, unclaimedAmount, if_neg (by simp [hunclaimed])]

end Staked

theorem hasEmergencyClaimed_refunded (m : Market) (user : Address) (pollId : ℕ) (amount : ℤ)
    (pollId' : ℕ) (user' : Address) :
    (refundedMarket m user pollId amount).hasEmergencyClaimed pollId' user' =
      if (pollId', user') = (pollId, user) then true
      else m.hasEmergencyClaimed pollId' user' := by
  simp only [Market.hasEmergencyClaimed, refundedMarket, lookup_insert_eq]
  split <;> rfl

theorem unclaimed_refunded {user : Address} {pollId : ℕ} {record : Stake}
    (staked : m.stakes.lookup (pollId, user) = some record)
    (unclaimed : m.hasEmergencyClaimed pollId user = false) :
    total (unclaimedAmount (refundedMarket m user pollId record.amount)) m.stakes =
      total (unclaimedAmount m) m.stakes - record.amount := by
  have hsum : total (unclaimedAmount (refundedMarket m user pollId record.amount)) m.stakes +
        weightAt (unclaimedAmount m) m.stakes (pollId, user) =
      total (unclaimedAmount m) m.stakes +
        weightAt (unclaimedAmount (refundedMarket m user pollId record.amount)) m.stakes
          (pollId, user) := by
    apply total_reweight (pollId, user)
    intro k record' hne
    simp [unclaimedAmount, hasEmergencyClaimed_refunded, hne]
  rw [weightAt_of_lookup _ staked, weightAt_of_lookup _ staked] at hsum
  simp [unclaimedAmount, hasEmergencyClaimed_refunded, unclaimed] at hsum
  omega

theorem Consistent.unclaimedAmount_nonneg (h : Consistent contract m) (k : ℕ × Address)
    (record : Stake) (staked : m.stakes.lookup k = some record) :
    0 ≤ unclaimedAmount m k record := by
  unfold unclaimedAmount
  split
  · exact le_rfl
  · exact (h.record k.1 k.2 record staked).positive.le

theorem Consistent.unclaimed_covers (h : Consistent contract m) {user : Address} {pollId : ℕ}
    {record : Stake} (staked : m.stakes.lookup (pollId, user) = some record)
    (unclaimed : m.hasEmergencyClaimed pollId user = false) :
    record.amount ≤ total (unclaimedAmount m) m.stakes := by
  have hweight : unclaimedAmount m (pollId, user) record = record.amount := by
    simp [unclaimedAmount, unclaimed]
  rw [← hweight]
  exact weight_le_total h.unclaimedAmount_nonneg staked

theorem Consistent.unclaimed_nonneg (h : Consistent contract m) :
    0 ≤ total (unclaimedAmount m) m.stakes :=
  total_nonneg h.unclaimedAmount_nonneg

theorem Consistent.refund_fits (h : Consistent contract m) {user : Address} {pollId : ℕ}
    {record : Stake} (staked : m.stakes.lookup (pollId, user) = some record)
    (unclaimed : m.hasEmergencyClaimed pollId user = false) :
    InI128 (m.stats.totalValueLocked - record.amount) := by
  have hcovers := h.unclaimed_covers staked unclaimed
  have hpositive := (h.record pollId user record staked).positive
  have hfits := h.locked_fits
  have hlocked := h.locked
  unfold InI128 at *
  omega

theorem Consistent.refunded (h : Consistent contract m) {user : Address} {pollId : ℕ}
    {record : Stake} (staked : m.stakes.lookup (pollId, user) = some record)
    (unclaimed : m.hasEmergencyClaimed pollId user = false) :
    Consistent contract (refundedMarket m user pollId record.amount) := by
  refine { h with claimed := ?_, locked := ?_, locked_fits := h.refund_fits staked unclaimed }
  · intro pollId' user' hclaimed
    rw [hasEmergencyClaimed_refunded] at hclaimed
    split at hclaimed
    · rename_i hkey
      rw [hkey]
      exact Finmap.mem_of_lookup_eq_some staked
    · exact h.claimed pollId' user' hclaimed
  · change m.stats.totalValueLocked - record.amount =
      total (unclaimedAmount (refundedMarket m user pollId record.amount)) m.stakes
    rw [unclaimed_refunded staked unclaimed, h.locked]

theorem Consistent.polls_fresh (h : Consistent contract m) {pollId : ℕ}
    (pollId_eq : pollId = m.nextPollId.getD 1) : m.polls.lookup pollId = none := by
  by_contra hfound
  obtain ⟨old, hold⟩ := Option.ne_none_iff_exists'.mp hfound
  have hbelow := (h.poll _ old hold).below
  omega

theorem Consistent.pollAdded (h : Consistent contract m) {poll : Poll} {matchId : ℕ}
    {match' : Match}
    (match_found : m.matchRecords.lookup matchId = some match')
    (pollId_eq : poll.pollId = m.nextPollId.getD 1)
    (empty : ∀ side, poolOnSide poll side = 0 ∧ count poll side = 0) :
    Consistent contract (pollAddedMarket m poll) := by
  have hfresh := h.polls_fresh pollId_eq
  have hnoStake : ∀ k record, m.stakes.lookup k = some record → k.1 ≠ poll.pollId := by
    intro k record hlookup heq
    have hfound := (h.record k.1 k.2 record hlookup).poll_found
    rw [heq] at hfound
    exact Finmap.lookup_eq_none.mp hfresh hfound
  refine { h with unconfigured := ?_, record := ?_, poll := ?_, placed := ?_, pools := ?_ }
  · intro hadmin
    have hempty := (h.unconfigured hadmin).1
    rw [hempty] at match_found
    simp at match_found
  · intro pollId user record hlookup
    have hold := h.record pollId user record hlookup
    exact { hold with poll_found := by simp [pollAddedMarket, hold.poll_found] }
  · intro pollId poll' hlookup
    rw [polls_pollAdded] at hlookup
    split at hlookup
    · rename_i hpoll
      cases hlookup
      subst hpoll
      refine ⟨Nat.lt_succ_self _, fun side => ?_, fun side => ?_⟩
      · rw [(empty side).1]
        refine (total_eq_zero fun k record hk => ?_).symm
        simp [sideAmount, hnoStake k record hk]
      · rw [(empty side).2]
        refine (total_eq_zero fun k record hk => ?_).symm
        simp [sideCount, hnoStake k record hk]
    · have hold := h.poll pollId poll' hlookup
      refine { hold with below := ?_ }
      have hbelow := hold.below
      change pollId < poll.pollId + 1
      omega
  · change m.stats.totalStakesPlaced = total pollCounts (m.polls.insert poll.pollId poll)
    rw [total_insert_new _ _ hfresh, h.placed]
    have hyes := (empty .yes).2
    have hno := (empty .no).2
    simp only [count] at hyes hno
    simp [pollCounts, hyes, hno]
  · change total pollPools (m.polls.insert poll.pollId poll) = total stakeAmount m.stakes
    rw [total_insert_new _ _ hfresh, h.pools]
    have hyes := (empty .yes).1
    have hno := (empty .no).1
    simp only [poolOnSide] at hyes hno
    simp [pollPools, hyes, hno]

theorem Consistent.matchRevised (h : Consistent contract m) {admin : Address} {matchId : ℕ}
    {old : Match} (admin_found : m.admin = some admin)
    (match_found : m.matchRecords.lookup matchId = some old) (new : Match) :
    Consistent contract { m with matchRecords := m.matchRecords.insert matchId new } := by
  refine { h with unconfigured := ?_, matches_below := ?_ }
  · intro hadmin
    rw [admin_found] at hadmin
    simp at hadmin
  · intro matchId' m' hlookup
    rw [lookup_insert_eq] at hlookup
    split at hlookup
    · rename_i heq
      rw [heq]
      exact h.matches_below matchId old match_found
    · exact h.matches_below matchId' m' hlookup

end Operations

theorem consistent_step {N : Network} {w w' : World N} {a : Action N}
    {reply : HostCall.Reply PredictXError Value} (h : Consistent N.market w.market)
    (hstep : Step w a reply w') : Consistent N.market w'.market := by
  cases hstep with
  | rejected => exact h
  | initializeOracle => exact h
  | setPollStatus => exact h
  | deployOracle => exact h
  | elapse => exact h
  | outside => exact h
  | @market signatures op value _ committed =>
      cases committed with
      | initializeMarket fresh =>
          have hempty := h.unconfigured fresh
          refine { h with
            unconfigured := by simp, configured := by simp, oracle_configured := by simp
            matches_below := ?_, poll := ?_ }
          · intro matchId m' hlookup
            rw [hempty.1] at hlookup
            simp at hlookup
          · intro pollId poll hlookup
            rw [hempty.2] at hlookup
            simp at hlookup
      | setOracle _ admin_found => exact { h with oracle_configured := by simp [admin_found] }
      | pause => exact { h with }
      | unpause => exact { h with }
      | cancelPoll => exact h
      | emergencyWithdraw _ unclaimed _ _ _ staked => exact h.refunded staked unclaimed
      | createPoll _ _ match_found _ _ _ _ poll_eq =>
          refine h.pollAdded match_found (by rw [poll_eq]) ?_
          intro side
          rw [poll_eq]
          cases side <;> exact ⟨rfl, rfl⟩
      | stake authorised _ minimum poll_found _ _ fresh _ _ locked_fits record_eq =>
          subst record_eq
          exact h.staked poll_found fresh minimum (signer_ne_market authorised) locked_fits
      | createMatch _ admin_found _ _ match_eq =>
          refine { h with unconfigured := ?_, matches_below := ?_ }
          · intro hadmin
            rw [matchAddedMarket, admin_found] at hadmin
            simp at hadmin
          · intro matchId m' hlookup
            rw [matchRecords_matchAdded] at hlookup
            split at hlookup
            · rename_i heq
              rw [heq]
              exact Nat.lt_succ_self _
            · have hbelow := h.matches_below matchId m' hlookup
              subst match_eq
              exact Nat.lt_succ_of_lt hbelow
      | updateMatch _ admin_found match_found => exact h.matchRevised admin_found match_found _
      | finishMatch _ admin_found match_found => exact h.matchRevised admin_found match_found _

theorem consistent_run {N : Network} (x : Execution N) :
    Consistent N.market x.final.market := by
  refine x.induction (P := fun _ w => Consistent N.market w.market) (consistent_deployed _) ?_
  intro _ w a h
  exact consistent_step h (step_cases w a)

theorem consistent_of_mem {N : Network} {x : Execution N} {e : Transaction N}
    (h : e ∈ x.history) : Consistent N.market e.before.market := by
  obtain ⟨before, _, _, hbefore, _⟩ := Execution.exists_of_mem h
  rw [hbefore]
  exact consistent_run _

section Runs

variable {N : Network}

/-- A property that transactions meeting a condition keep, on a ledger whose
entries fit together, holds throughout a run of such transactions. -/
theorem invariant_run {P : World N → Prop} {Meets : Transaction N → Prop} {w : World N}
    (hcons : Consistent N.market w.market) (hstart : P w)
    (hstep : ∀ {w a reply w'}, Consistent N.market w.market → Step w a reply w' →
      Meets ⟨w, a, reply, w'⟩ → P w → P w') {actions : List (Action N)}
    (hall : ∀ e ∈ trace step w actions, Meets e) :
    P (run step w actions) ∧ ∀ e ∈ trace step w actions, P e.before ∧ P e.after := by
  have hkeep : ∀ (w : World N) (a : Action N), Consistent N.market w.market ∧ P w →
      Meets (entry step w a) →
      Consistent N.market (step w a).2.market ∧ P (step w a).2 := by
    rintro w a ⟨hcons, hw⟩ hmeets
    exact ⟨consistent_step hcons (step_cases w a), hstep hcons (step_cases w a) hmeets hw⟩
  obtain ⟨hfinal, hbetween⟩ := run_invariant_of_steps
    (P := fun w : World N => Consistent N.market w.market ∧ P w) ⟨hcons, hstart⟩ hkeep hall
  exact ⟨hfinal.2, fun e he => ⟨(hbetween e he).1.2, (hbetween e he).2.2⟩⟩

theorem invariant_later {P : World N → Prop} (x : Execution N) (hstart : P x.final)
    (hstep : ∀ {w a reply w'}, Consistent N.market w.market → Step w a reply w' → P w → P w')
    (later : List (Action N)) : P (x.andThen later).final := by
  have hall : ∀ e ∈ trace step x.final later, True := fun _ _ => trivial
  rw [Execution.final_andThen]
  exact (invariant_run (consistent_run x) hstart (fun hcons hdone _ hw => hstep hcons hdone hw)
    hall).1

theorem invariant_final {P : World N → Prop} (x : Execution N)
    (hstart : P (genesis N x.start x.tokens))
    (hstep : ∀ {w a reply w'}, Consistent N.market w.market → Step w a reply w' → P w → P w') :
    P x.final :=
  invariant_later { x with actions := [] } hstart hstep x.actions

theorem invariant_after {P : World N → Prop} {Meets : Transaction N → Prop} {x : Execution N}
    {earlier later : List (Transaction N)} {e : Transaction N}
    (hsplit : x.history = earlier ++ e :: later) (hstart : P e.after)
    (hstep : ∀ {w a reply w'}, Consistent N.market w.market → Step w a reply w' →
      Meets ⟨w, a, reply, w'⟩ → P w → P w')
    (hall : ∀ e' ∈ later, Meets e') : P x.final ∧ ∀ e' ∈ later, P e'.before := by
  have he : e ∈ x.history := by simp [hsplit]
  have hcons := consistent_step (consistent_of_mem he) (Execution.step_of_mem he)
  obtain ⟨actions, htrace, hrun⟩ := trace_split hsplit
  rw [← htrace] at hall ⊢
  obtain ⟨hfinal, hbetween⟩ := invariant_run hcons hstart hstep hall
  rw [hrun] at hfinal
  exact ⟨hfinal, fun e' he' => (hbetween e' he').1⟩

/-- The poll on which a transaction placed a stake of the user. -/
def stakedPoll (user : Address) (e : Transaction N) : Option ℕ :=
  match e.input, e.output with
  | .market _ (.stake staker pollId _ _), .ok _ => if staker = user then some pollId else none
  | _, _ => none

theorem stakedPoll_rejected {user : Address} {w w' : World N} {a : Action N}
    {reply : HostCall.Reply PredictXError Value} (h : ∀ value, reply ≠ .ok value) :
    stakedPoll user ⟨w, a, reply, w'⟩ = none := by
  unfold stakedPoll
  split
  · rename_i hreply
    exact absurd hreply (h _)
  · rfl

theorem userStakesOf_step {w w' : World N} {a : Action N}
    {reply : HostCall.Reply PredictXError Value} (hstep : Step w a reply w') (user : Address) :
    w'.market.userStakesOf user =
      w.market.userStakesOf user ++ (stakedPoll user ⟨w, a, reply, w'⟩).toList := by
  have hidle : w.market.userStakesOf user =
      w.market.userStakesOf user ++ (none : Option ℕ).toList := by
    simp
  cases hstep with
  | rejected failed =>
      rw [stakedPoll_rejected failed]
      exact hidle
  | @market signatures op value _ committed =>
      cases committed with
      | stake _ _ _ _ _ _ _ _ _ _ record_eq =>
          subst record_eq
          rw [userStakesOf_staked, stakedPoll]
          split
          · rename_i huser
            simp [huser]
          · rename_i huser
            simp [Ne.symm huser]
      | _ => exact hidle
  | _ => exact hidle

theorem userStakesOf_run (x : Execution N) (user : Address) :
    x.final.market.userStakesOf user = x.history.filterMap (stakedPoll user) := by
  refine x.induction
    (P := fun h w => w.market.userStakesOf user = h.filterMap (stakedPoll user)) rfl ?_
  intro h w a ih
  rw [userStakesOf_step (step_cases w a), ih, List.filterMap_append]
  change _ ++ (stakedPoll user (entry step w a)).toList = _
  cases hpoll : stakedPoll user (entry step w a) <;> simp [hpoll]

theorem stake_bookkeeping (x : Execution N) :
    (∀ pollId user,
      ((pollId, user) ∈ x.final.market.stakes ↔ (pollId, user) ∈ x.final.market.hasStaked) ∧
        ((pollId, user) ∈ x.final.market.stakes ↔
          pollId ∈ x.final.market.userStakesOf user)) ∧
      (∀ pollId user record, x.final.market.stakes.lookup (pollId, user) = some record →
        (x.final.market.userStakesOf user).count pollId = 1 ∧
          pollId ∈ x.final.market.polls ∧ record.pollId = pollId ∧ record.user = user ∧
          minStakeAmount ≤ record.amount) ∧
      (∀ user, x.final.market.userStakesOf user = x.history.filterMap (stakedPoll user)) ∧
      (∀ pollId poll, x.final.market.polls.lookup pollId = some poll →
        poll.yesPool = total (sideAmount pollId .yes) x.final.market.stakes ∧
          poll.noPool = total (sideAmount pollId .no) x.final.market.stakes ∧
          poll.yesCount = total (sideCount pollId .yes) x.final.market.stakes ∧
          poll.noCount = total (sideCount pollId .no) x.final.market.stakes) ∧
      x.final.market.stats.totalStakesPlaced = total pollCounts x.final.market.polls := by
  have hcons := consistent_run x
  refine ⟨?_, ?_, userStakesOf_run x, ?_, hcons.placed⟩
  · intro pollId user
    exact ⟨(hcons.hasStaked_iff _).symm, (hcons.listed_iff _ _).symm⟩
  · intro pollId user record hrecord
    have hok := hcons.record pollId user record hrecord
    have hlisted := (hcons.listed_iff pollId user).mpr (Finmap.mem_of_lookup_eq_some hrecord)
    exact ⟨List.count_eq_one_of_mem (hcons.listed_once user) hlisted, hok.poll_found,
      hok.pollId_eq, hok.user_eq, hok.minimum⟩
  · intro pollId poll hpoll
    have hok := hcons.poll pollId poll hpoll
    exact ⟨hok.pool_eq .yes, hok.pool_eq .no, hok.count_eq .yes, hok.count_eq .no⟩

end Runs

end PredictX.Bookkeeping
