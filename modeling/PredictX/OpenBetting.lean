import PredictX.Bystanders
import PredictX.Headroom
import PredictX.PollFreeze

namespace PredictX.OpenBetting

open PredictX.Bookkeeping
open PredictX.Bystanders
open PredictX.CommittedCalls
open PredictX.EscrowRefinement
open PredictX.FiniteStore
open PredictX.Headroom
open PredictX.HostCall
open PredictX.Identifiers
open PredictX.LabelledRuns
open PredictX.MarketStorage
open PredictX.OrderedChecks
open PredictX.PollFreeze
open PredictX.PredictionMarket
open PredictX.Settlement
open PredictX.SharedTypes
open PredictX.System
open PredictX.TokenContracts
open PredictX.Verdicts

variable {N : Network}

/-- The invariants of a ledger after few transactions of few tokens. -/
structure Healthy (n : ℕ) (w : World N) : Prop where
  consistent : Consistent N.market w.market
  numbered : Numbered w.market
  unsettled : Unsettled w.market
  modest : Modest (2 ^ 63) n w.market
  held : HeldWithin (2 ^ 63) w

theorem healthy_run (x : Execution N) (hheld : ∀ e ∈ x.history, HeldWithin (2 ^ 63) e.before)
    (hnow : HeldWithin (2 ^ 63) x.final) : Healthy x.actions.length x.final :=
  ⟨consistent_run x, numbered_run x, unsettled_run x, modest_run (by decide) x hheld, hnow⟩

/-- Everything about a stake that only the staker can change is in order. -/
structure ReadyToStake (token user : Address) (pollId : ℕ) (amount : ℤ) (lockTime : ℕ)
    (w : World N) : Prop where
  configured : w.market.tokenAddress = some token
  poll_found : ∃ poll, w.market.polls.lookup pollId = some poll ∧ poll.lockTime = lockTime
  fresh : (pollId, user) ∉ w.market.hasStaked
  funds : amount ≤ N.balance w.tokens token user

/-- An action of somebody else: a call the user did not sign, or a move of
tokens that leaves the user's alone. -/
def LeavesAlone (token user : Address) : Action N → Prop
  | .market signatures _ => signatures.accepts N.market user = false
  | .oracle .. | .deployOracle _ | .elapse _ => True
  | .outside activity => ∀ s, N.balance s token user ≤ N.balance (activity.apply s) token user

theorem ReadyToStake.kept {token user : Address} {pollId : ℕ} {amount : ℤ} {lockTime : ℕ}
    {w w' : World N} {a : Action N} {reply : Reply PredictXError Value} (other : user ≠ N.market)
    (hcons : Consistent N.market w.market) (hstep : Step w a reply w')
    (halone : LeavesAlone token user a) (h : ReadyToStake token user pollId amount lockTime w) :
    ReadyToStake token user pollId amount lockTime w' := by
  have hkeeps : (w'.market.hasStaked.lookup (pollId, user) =
      w.market.hasStaked.lookup (pollId, user)) ∧
      N.balance w.tokens token user ≤ N.balance w'.tokens token user := by
    cases a with
    | market signatures op =>
        have hunsigned : Unsigned user (.market signatures op) := halone
        have hsame := bystander_step hstep other hunsigned
        exact ⟨hsame.hasStaked pollId, (hsame.balance token).ge⟩
    | outside activity =>
        cases hstep with
        | rejected => exact ⟨rfl, le_rfl⟩
        | outside => exact ⟨rfl, halone w.tokens⟩
    | _ => cases hstep <;> exact ⟨rfl, le_rfl⟩
  constructor
  · exact token_kept hcons hstep h.configured
  · obtain ⟨poll, hpoll, hlock⟩ := h.poll_found
    obtain ⟨poll', hpoll', hgrown⟩ := poll_grows hcons hstep ⟨poll, hpoll, .refl poll⟩
    exact ⟨poll', hpoll', hgrown.lockTime_eq.trans hlock⟩
  · rw [← Finmap.lookup_eq_none, hkeeps.1, Finmap.lookup_eq_none]
    exact h.fresh
  · exact h.funds.trans hkeeps.2

theorem Healthy.stake {token user : Address} {amount : ℤ} {lockTime n : ℕ}
    {w : World N} (h : Healthy n w) (pollId : ℕ)
    (hready : ReadyToStake token user pollId amount lockTime w)
    (hfew : n + 1 < 2 ^ 32) (moves : N.MovesOnDemand token)
    (minimum : minStakeAmount ≤ amount) {signatures : Signatures N}
    (signed : signatures.accepts N.market user = true)
    (pays : signatures.accepts token user = true) (side : StakeSide) :
    (step w (.market signatures (.stake user pollId amount side))).1 =
      if w.market.isPaused = true then .error .emergencyWithdrawNotAllowed
      else if lockTime ≤ w.now then .error .pollLocked
      else .ok (.stake ⟨user, pollId, amount, side, false, w.now⟩) := by
  obtain ⟨poll, hpoll, rfl⟩ := hready.poll_found
  have hpositive := pos_of_minimum minimum
  have hsums := stakeSums_pass h.consistent h.modest hfew hpoll hpositive.le
    (hready.funds.trans (h.held token hready.configured user)) side
  have hpaid : refusesPayment signatures w user amount = false := by
    rw [refusesPayment, hready.configured, Option.any_some, Option.isNone_eq_false_iff]
    exact (moves _ _ _ _ _).mpr ⟨pays, hpositive.le, hready.funds⟩
  have hrest : verdict (granted w (.stake user pollId amount side))
      (stakeSums w poll amount side) = .ok (.stake ⟨user, pollId, amount, side, false, w.now⟩) :=
    verdict_eq_ok.mpr ⟨rfl, hsums⟩
  rw [step_verdict h.consistent h.numbered h.unsettled]
  simp [checks, verdict, Check.fails, Check.refusal, notPaused, pollChecks, lacks, expired, signed,
    hpoll, hpaid, hready.fresh, hrest, not_le.mpr hpositive, not_lt.mpr minimum]

theorem ReadyToStake.later {token user : Address} {pollId : ℕ} {amount : ℤ} {lockTime : ℕ}
    {x : Execution N} (other : user ≠ N.market)
    (h : ReadyToStake token user pollId amount lockTime x.final) {later : List (Action N)}
    (alone : ∀ a ∈ later, LeavesAlone token user a) :
    ReadyToStake token user pollId amount lockTime (x.andThen later).final := by
  have hall : ∀ e ∈ trace step x.final later, LeavesAlone token user e.input := by
    intro e he
    obtain ⟨before, after, hactions, -⟩ := exists_of_mem_trace he
    exact alone _ (by simp [hactions])
  rw [Execution.final_andThen]
  refine (invariant_run (P := ReadyToStake token user pollId amount lockTime) (consistent_run x) h
    ?_ hall).1
  intro w a reply w' hcons hstep halone hready
  exact hready.kept other hcons hstep halone

/-- Whatever others do in the meantime, a staker who has the tokens and has
not staked on an open poll yet can stake on it: the answer is the pause, the
lock, or the stake. -/
theorem stake_unhindered (x : Execution N) {token user : Address} {poll : Poll} {pollId : ℕ}
    {amount : ℤ} (later : List (Action N))
    (hfew : (x.andThen later).actions.length + 1 < 2 ^ 32)
    (hheld : ∀ e ∈ (x.andThen later).history, HeldWithin (2 ^ 63) e.before)
    (hnow : HeldWithin (2 ^ 63) (x.andThen later).final)
    (configured : x.final.market.tokenAddress = some token) (moves : N.MovesOnDemand token)
    (poll_found : x.final.market.polls.lookup pollId = some poll)
    (fresh : (pollId, user) ∉ x.final.market.hasStaked)
    (minimum : minStakeAmount ≤ amount) (funds : amount ≤ N.balance x.final.tokens token user)
    (alone : ∀ a ∈ later, LeavesAlone token user a) {signatures : Signatures N}
    (signed : signatures.accepts N.market user = true)
    (pays : signatures.accepts token user = true) (side : StakeSide) :
    (step (x.andThen later).final (.market signatures (.stake user pollId amount side))).1 =
      if (x.andThen later).final.market.isPaused = true then .error .emergencyWithdrawNotAllowed
      else if poll.lockTime ≤ (x.andThen later).final.now then .error .pollLocked
      else .ok (.stake ⟨user, pollId, amount, side, false, (x.andThen later).final.now⟩) := by
  have hother : user ≠ N.market := by
    rintro rfl
    exact Bool.false_ne_true ((signatures.market_silent _).symm.trans signed)
  have hstart : ReadyToStake token user pollId amount poll.lockTime x.final :=
    ⟨configured, ⟨poll, poll_found, rfl⟩, fresh, funds⟩
  exact (healthy_run _ hheld hnow).stake pollId (hstart.later hother alone) hfew moves minimum
    signed pays side

/-- Meanwhile 5 adds a poll and time passes. -/
def interlude : List (Action sampleNetwork) :=
  [.market fiveSigns (.createPoll ⟨5⟩ 1 "Penalty?" .other 500), .elapse 50]

theorem stake_unhindered_sample :
    (step ((sampleRun []).andThen interlude).final
        (.market allSign (.stake ⟨6⟩ 1 20000000 .no))).1 =
      .ok (.stake ⟨⟨6⟩, 1, 20000000, .no, false, 150⟩) := by
  obtain ⟨poll, hpoll⟩ := Finmap.mem_iff.mp
    (show 1 ∈ (sampleRun []).final.market.polls by decide +kernel)
  have hlock : ((sampleRun []).final.market.polls.lookup 1).map (·.lockTime) = some 1000 := by
    decide +kernel
  rw [hpoll, Option.map_some, Option.some.injEq] at hlock
  have hheld : ∀ e ∈ ((sampleRun []).andThen interlude).history, HeldWithin (2 ^ 63) e.before := by
    rw [Execution.history_andThen]
    refine List.forall_mem_append.mpr ⟨sampleRun_within, ?_⟩
    refine List.forall_mem_cons.mpr ⟨within_of_tokens rfl, ?_⟩
    exact List.forall_mem_cons.mpr ⟨within_of_tokens rfl, List.forall_mem_nil _⟩
  have halone : ∀ a ∈ interlude, LeavesAlone ⟨3⟩ ⟨6⟩ a := by
    refine List.forall_mem_cons.mpr ⟨rfl, ?_⟩
    exact List.forall_mem_cons.mpr ⟨trivial, List.forall_mem_nil _⟩
  rw [stake_unhindered (sampleRun []) interlude (by decide) hheld (within_of_tokens rfl)
    (by decide +kernel) (storeNetwork_movesOnDemand ⟨0⟩ ⟨3⟩) hpoll (by decide +kernel) (by decide)
    (by decide +kernel) halone rfl rfl .no, hlock]
  decide +kernel

theorem Healthy.call {n : ℕ} {w : World N} (h : Healthy n w) (signatures : Signatures N)
    (op : MarketOp) (hpass : ∀ c ∈ checks signatures w op, c.fails = false)
    (hsame : ∀ value w', Committed (callEnv N.market signatures w.now) w op value w' →
      w'.tokens = w.tokens ∧ w'.market.tokenAddress = w.market.tokenAddress) :
    ∃ value w', value = granted w op ∧ step w (.market signatures op) = (.ok value, w') ∧
      Committed (callEnv N.market signatures w.now) w op value w' ∧ Healthy (n + 1) w' := by
  have hok : (step w (.market signatures op)).1 = .ok (granted w op) := by
    rw [step_verdict h.consistent h.numbered h.unsettled]
    exact verdict_eq_ok.mpr ⟨rfl, hpass⟩
  have hcommitted := committed_of_returns (step_market.mp (Prod.ext hok rfl))
  have hstep := step_cases w (.market signatures op)
  obtain ⟨htokens, htoken⟩ := hsame _ _ hcommitted
  refine ⟨_, _, rfl, Prod.ext hok rfl, hcommitted, consistent_step h.consistent hstep,
    numbered_step h.consistent hstep h.numbered, unsettled_step hstep h.unsettled,
    modest_step (by decide) h.consistent h.held hstep h.modest, ?_⟩
  intro token hconfigured holder
  rw [htokens]
  exact h.held token (htoken ▸ hconfigured) holder

/-- No reachable state is a dead end: the admin can unpause and add a match,
and anybody with enough tokens can create a poll on it and stake on that. -/
theorem market_alive (x : Execution N) {token admin user : Address} {amount : ℤ}
    (hfew : x.actions.length + 4 < 2 ^ 32)
    (hheld : ∀ e ∈ x.history, HeldWithin (2 ^ 63) e.before) (hnow : HeldWithin (2 ^ 63) x.final)
    (admin_found : x.final.market.admin = some admin)
    (configured : x.final.market.tokenAddress = some token) (moves : N.MovesOnDemand token)
    (minimum : minStakeAmount ≤ amount) (funds : amount ≤ N.balance x.final.tokens token user)
    {signatures : Signatures N} (admin_signs : signatures.accepts N.market admin = true)
    (user_signs : signatures.accepts N.market user = true)
    (pays : signatures.accepts token user = true)
    (homeTeam awayTeam league venue question : String) (category : PollCategory)
    (side : StakeSide) {kickoffTime lockTime : ℕ} (kickoff_later : x.final.now < kickoffTime)
    (lock_later : x.final.now < lockTime) :
    (trace step x.final
        [.market signatures (.unpause admin),
          .market signatures (.createMatch admin homeTeam awayTeam league venue kickoffTime),
          .market signatures (.createPoll user (x.final.market.nextMatchId.getD 1) question
            category lockTime),
          .market signatures (.stake user (x.final.market.nextPollId.getD 1) amount side)]).map
        (·.output) =
      [.ok .unit, .ok (.id (x.final.market.nextMatchId.getD 1)),
        .ok (.id (x.final.market.nextPollId.getD 1)),
        .ok (.stake
          ⟨user, x.final.market.nextPollId.getD 1, amount, side, false, x.final.now⟩)] := by
  have hstart := healthy_run x hheld hnow
  have hmatchId := hstart.modest.nextMatch
  have hpollId := hstart.modest.nextPoll
  generalize x.final = w at *
  obtain ⟨_, _, hvalue, hunpause, hdone, hunpaused⟩ := hstart.call signatures (.unpause admin)
    (by simp [checks, comparedAdmin, Check.fails, lacks, admin_found, admin_signs])
    (by rintro _ _ ⟨⟩; exact ⟨rfl, rfl⟩)
  cases hdone
  obtain ⟨_, _, hmatchValue, hcreateMatch, hdone, hmatched⟩ := hunpaused.call signatures
    (.createMatch admin homeTeam awayTeam league venue kickoffTime)
    (by
      simp [checks, signedAdmin, Check.fails, lacks, expired, admin_found, admin_signs,
        kickoff_later]
      omega)
    (by rintro _ _ ⟨⟩; exact ⟨rfl, rfl⟩)
  cases hdone with
  | createMatch _ _ _ _ match_eq =>
    subst match_eq
    obtain ⟨_, _, hpollValue, hcreatePoll, hdone, hpolled⟩ := hmatched.call signatures
      (.createPoll user (w.market.nextMatchId.getD 1) question category lockTime)
      (by
        simp [checks, notPaused, Check.fails, lacks, expired, user_signs, lock_later,
          matchAddedMarket, pollList, maxPollsPerMatch, Market.isPaused]
        omega)
      (by rintro _ _ ⟨⟩; exact ⟨rfl, rfl⟩)
    cases hdone with
    | createPoll _ _ _ _ _ _ _ poll_eq =>
      subst poll_eq
      have hfresh : (w.market.nextPollId.getD 1, user) ∉ w.market.hasStaked := by
        rw [hstart.consistent.hasStaked_iff]
        intro hmem
        obtain ⟨record, hrecord⟩ := Finmap.mem_iff.mp hmem
        exact hstart.numbered.poll_fresh (hstart.consistent.record _ _ _ hrecord).poll_found
      have hstake := hpolled.stake (w.market.nextPollId.getD 1)
        ⟨configured, ⟨_, Finmap.lookup_insert _, rfl⟩, hfresh, funds⟩ (by omega) moves minimum
        user_signs pays side
      rw [if_neg (by exact Bool.false_ne_true), if_neg (not_le.mpr lock_later)] at hstake
      rw [outputs_cons hunpause, outputs_cons hcreateMatch, outputs_cons hcreatePoll,
        outputs_cons (Prod.ext hstake rfl)]
      rfl

theorem market_alive_sample :
    (trace step (sampleRun []).final
        [.market allSign (.unpause ⟨1⟩),
          .market allSign (.createMatch ⟨1⟩ "Home" "Away" "League" "Venue" 3000),
          .market allSign (.createPoll ⟨5⟩ 2 "Penalty?" .other 2000),
          .market allSign (.stake ⟨5⟩ 2 20000000 .yes)]).map (·.output) =
      [.ok .unit, .ok (.id 2), .ok (.id 2), .ok (.stake ⟨⟨5⟩, 2, 20000000, .yes, false, 100⟩)] :=
  market_alive (sampleRun []) (by decide) sampleRun_within (within_of_tokens rfl)
    (by decide +kernel) (by decide +kernel) (storeNetwork_movesOnDemand ⟨0⟩ ⟨3⟩) (by decide)
    (by decide +kernel) rfl rfl rfl "Home" "Away" "League" "Venue" "Penalty?" .other .yes
    (by decide +kernel) (by decide +kernel)

end PredictX.OpenBetting
