import PredictX.Refunds
import PredictX.UserCalls

namespace PredictX.CommutingCalls

open PredictX.Bookkeeping
open PredictX.CommittedCalls
open PredictX.EscrowRefinement
open PredictX.FiniteStore
open PredictX.HostCall
open PredictX.HostCall.Call
open PredictX.Interchange
open PredictX.LabelledRuns
open PredictX.MarketStorage
open PredictX.PredictionMarket
open PredictX.Refunds
open PredictX.SharedTypes
open PredictX.SorobanHost
open PredictX.Staking
open PredictX.System
open PredictX.TokenContracts
open PredictX.TokenUtils
open PredictX.UserCalls
open PredictX.VotingOracle

variable {N : Network}

/-- No pool, count or statistic exceeds its integer type. -/
structure MarketFits (m : Market) : Prop where
  polls : ∀ pollId poll, m.polls.lookup pollId = some poll →
    InI128 poll.yesPool ∧ InI128 poll.noPool ∧ poll.yesCount < 2 ^ 32 ∧ poll.noCount < 2 ^ 32
  locked : InI128 m.stats.totalValueLocked
  placed : m.stats.totalStakesPlaced < 2 ^ 64

theorem marketFits_iff {m : Market} : MarketFits m ↔
    (∀ pollId ∈ m.polls.keys, ∀ poll ∈ m.polls.lookup pollId,
      InI128 poll.yesPool ∧ InI128 poll.noPool ∧ poll.yesCount < 2 ^ 32 ∧ poll.noCount < 2 ^ 32) ∧
      InI128 m.stats.totalValueLocked ∧ m.stats.totalStakesPlaced < 2 ^ 64 := by
  constructor
  · rintro ⟨hpolls, hlocked, hplaced⟩
    exact ⟨fun pollId _ poll hpoll => hpolls pollId poll hpoll, hlocked, hplaced⟩
  · rintro ⟨hpolls, hlocked, hplaced⟩
    exact ⟨fun pollId poll hpoll => hpolls pollId (mem_keys_of_lookup hpoll) poll hpoll, hlocked,
      hplaced⟩

instance (m : Market) : Decidable (MarketFits m) := decidable_of_iff _ marketFits_iff.symm

/-- A token in this state refuses payments to the market with these errors. -/
def RefusedWith (N : Network) (s : N.State) (token : Address)
    (refusal : Bool → Address → ℤ → Option PredictXError) : Prop :=
  ∀ signed src amount, N.transfer s token signed src N.market amount = none →
    (N.transferError s token signed src N.market amount).bind PredictXError.ofCode =
      refusal signed src amount

theorem exists_refusal {token : Address} (h : N.RefusesAlike token) :
    ∃ refusal, ∀ s, RefusedWith N s token refusal := by
  choose code hcode using h
  refine ⟨fun signed src amount => (code signed src N.market amount).bind PredictXError.ofCode, ?_⟩
  intro s signed src amount hrefused
  rw [hcode signed src N.market amount s hrefused]

section Stakes

variable {w : World N} {signatures : Signatures N} {staker : Address} {pollId : ℕ} {amount : ℤ}
  {side : StakeSide}

theorem updatePoolTotals_accepted {env : Env} {poll : Poll}
    (hyes : InI128 (credited poll amount side).yesPool)
    (hno : InI128 (credited poll amount side).noPool)
    (hyesCount : (credited poll amount side).yesCount < 2 ^ 32)
    (hnoCount : (credited poll amount side).noCount < 2 ^ 32) :
    Returns (updatePoolTotals poll amount side : MarketCall N Poll) env w
      (credited poll amount side) w := by
  cases side with
  | yes =>
      simp only [updatePoolTotals, bind_returns, checkedI128_returns, checkedU32_returns,
        pure_returns]
      exact ⟨_, w, ⟨hyes, rfl, rfl⟩, _, w, ⟨hyesCount, rfl, rfl⟩, rfl, rfl⟩
  | no =>
      simp only [updatePoolTotals, bind_returns, checkedI128_returns, checkedU32_returns,
        pure_returns]
      exact ⟨_, w, ⟨hno, rfl, rfl⟩, _, w, ⟨hnoCount, rfl, rfl⟩, rfl, rfl⟩

theorem callee_accepts (w : World N) (signatures : Signatures N) {token : Address}
    (hother : staker ≠ N.market) :
    ((callEnv N.market signatures w.now).callee token).authorises staker =
      signatures.accepts token staker := by
  simp [Env.authorises, Env.callee, callEnv, Ne.symm hother]

theorem payment_moves (w : World N) (signatures : Signatures N) {token : Address}
    (hother : staker ≠ N.market) (hdemand : N.MovesOnDemand token) (hamount : 0 ≤ amount) :
    (N.transfer w.tokens token (((callEnv N.market signatures w.now).callee token).authorises staker)
        staker N.market amount).isSome ↔
      signatures.accepts token staker = true ∧ amount ≤ N.balance w.tokens token staker := by
  rw [callee_accepts w signatures hother, hdemand, and_iff_right hamount]

theorem reply_stake {refusal : Bool → Address → ℤ → Option PredictXError}
    (hother : staker ≠ N.market)
    (hdemand : ∀ token, w.market.tokenAddress = some token → N.MovesOnDemand token)
    (hrefusal : ∀ token, w.market.tokenAddress = some token →
      RefusedWith N w.tokens token refusal)
    (hfits : ∀ value,
      stakeReply refusal signatures staker pollId (view w) amount side = .ok value →
        MarketFits (placed w.now staker pollId amount side w.market)) :
    (Staking.stake staker pollId amount side (callEnv N.market signatures w.now) w).reply.map
        Value.stake = stakeReply refusal signatures staker pollId (view w) amount side := by
  have hclock : Returns (timestamp : MarketCall N ℕ) (callEnv N.market signatures w.now) w w.now w :=
    timestamp_returns.mpr ⟨rfl, rfl⟩
  have hsigned : signatures.accepts N.market staker =
      (callEnv N.market signatures w.now).authorises staker := callEnv_authorises.symm
  unfold stakeReply stakePayment at hfits ⊢
  rw [hsigned] at hfits ⊢
  -- The checks are taken off one by one, in the order in which the source makes them.
  apply reply_requireAuth_else
  intro hauth
  apply reply_ensureNotPaused_else
  intro hpaused
  apply reply_failIf_else Iff.rfl
  intro hzero
  apply reply_failIf_else Iff.rfl
  intro hminimum
  rw [reply_bind (load_returns.mpr ⟨rfl, rfl⟩)]
  cases hpoll : w.market.polls.lookup pollId with
  | none => rfl
  | some poll =>
      rw [reply_bind (okOr_returns.mpr ⟨rfl, rfl⟩)]
      apply reply_failIf_else Iff.rfl
      intro hactive
      rw [reply_bind hclock]
      apply reply_failIf_else Iff.rfl
      intro hlocked
      rw [reply_bind (load_returns.mpr ⟨rfl, rfl⟩)]
      apply reply_failIf_else decide_eq_true_iff
      intro hstaked
      cases htoken : w.market.tokenAddress with
      | none =>
          rw [reply_bind_error (reply_transferToContract_unset htoken)]
          rfl
      | some token =>
          have hmoves := payment_moves w signatures hother (hdemand token htoken)
            (not_le.mp hzero).le
          cases htransfer : N.transfer w.tokens token
              (((callEnv N.market signatures w.now).callee token).authorises staker) staker
              N.market amount with
          | none =>
              rw [htransfer] at hmoves
              rw [reply_bind_trap (reply_transferToContract_refused htoken htransfer)]
              rw [callee_accepts w signatures hother] at htransfer ⊢
              have hcode := hrefusal token htoken _ _ _ htransfer
              exact (congrArg Reply.trap hcode).trans
                (if_neg fun hfunds => Bool.false_ne_true (hmoves.mpr hfunds)).symm
          | some tokens =>
              have hfunds := hmoves.mp (by rw [htransfer, Option.isSome_some])
              have hmarket := hfits _ (by
                simp only [hauth, hpaused, hzero, hminimum, hpoll, hactive, hlocked, hstaked, htoken]
                exact if_pos hfunds)
              obtain ⟨hyes, hno, hyesCount, hnoCount⟩ :=
                hmarket.polls _ _ (poll_placed hpoll w.now staker amount side)
              refine Eq.trans (congrArg (Reply.map Value.stake) (reply_eq_ok.mpr
                ⟨{ w with
                    market :=
                      stakedMarket w.market poll ⟨staker, pollId, amount, side, false, w.now⟩
                    tokens := tokens
                    events := w.events ++ [.stakePlaced pollId staker amount side] }, ?_⟩))
                (if_pos hfunds).symm
              simp only [bind_returns, transferToContract_returns, setMarket_returns, load_returns,
                getPlatformStats_returns, checkedI128_returns, checkedU64_returns,
                setPlatformStats_returns, publish_returns, pure_returns]
              exact ⟨(), _, ⟨token, tokens, htoken, htransfer, rfl⟩, (), _, rfl, (), _, rfl, _, _,
                updatePoolTotals_accepted hyes hno hyesCount hnoCount, (), _, rfl, _, _, ⟨rfl, rfl⟩,
                (), _, rfl, _, _, ⟨rfl, rfl⟩, _, _, ⟨hmarket.locked, rfl, rfl⟩, _, _,
                ⟨hmarket.placed, rfl, rfl⟩, (), _, rfl, (), _, rfl, trivial, rfl⟩

end Stakes

section Withdrawals

variable {signatures : Signatures N} {user : Address} {pollId : ℕ}

theorem reply_eligible {w : World N} {env : Env} {oracleId : Address}
    (h : w.oracles.lookup oracleId = none) :
    (eligible oracleId pollId env w : Outcome _ _ _).reply = .trap none :=
  reply_bind_trap (reply_callOracle h)

theorem reply_withdraw (x : Execution N)
    (hdemand : ∀ token, x.final.market.tokenAddress = some token → N.MovesOnDemand token) :
    (PredictionMarket.emergencyWithdraw user pollId (callEnv N.market signatures x.final.now)
        x.final).reply.map Value.amount = withdrawReply signatures user pollId (view x.final) := by
  have hsigned : signatures.accepts N.market user =
      (callEnv N.market signatures x.final.now).authorises user := callEnv_authorises.symm
  rw [PredictionMarket.emergencyWithdraw]
  unfold withdrawReply
  rw [hsigned]
  apply reply_requireAuth_else
  intro hauth
  rw [reply_bind (load_returns.mpr ⟨rfl, rfl⟩)]
  apply reply_failIf_else Iff.rfl
  intro hclaimed
  cases horacle : x.final.market.votingOracle with
  | none =>
      rw [reply_bind_error (reply_getOracle horacle)]
      rfl
  | some oracleId =>
      rw [reply_bind (getOracle_returns.mpr ⟨horacle, rfl⟩)]
      cases hdeployed : x.final.oracles.lookup oracleId with
      | none =>
          rw [reply_bind_trap (reply_eligible hdeployed)]
          simp only [hdeployed]
          rfl
      | some storage =>
          simp only [hdeployed]
          rw [reply_bind (eligible_returns.mpr ⟨storage, hdeployed, rfl, rfl⟩)]
          apply reply_failIf_else decide_eq_false_iff_not
          intro hrefundable
          rw [not_not] at hrefundable
          cases hrecord : x.final.market.stakes.lookup (pollId, user) with
          | none =>
              rw [loadStake, reply_bind (load_returns.mpr ⟨rfl, rfl⟩), hrecord]
              rfl
          | some record =>
              have hunclaimed : x.final.market.hasEmergencyClaimed pollId user = false :=
                (Bool.not_eq_true _).mp hclaimed
              have hfits := (consistent_run x).refund_fits hrecord hunclaimed
              obtain ⟨token, htoken⟩ := token_of_stake (consistent_run x) hrecord
              obtain ⟨tokens, htransfer⟩ := refund_payable (consistent_run x)
                (covered_run x htoken) (hdemand token htoken).paysOut hrecord hunclaimed
              rw [loadStake, reply_bind (load_returns.mpr ⟨rfl, rfl⟩), hrecord]
              refine congrArg (Reply.map Value.amount) (reply_eq_ok.mpr
                ⟨{ x.final with
                    market := refundedMarket x.final.market user pollId record.amount
                    tokens := tokens
                    events := x.final.events ++
                      [.emergencyWithdrawal pollId user record.amount] }, ?_⟩)
              simp only [bind_returns, okOr_returns, setEmergencyClaimed, setMarket_returns,
                transferFromContract_returns, getPlatformStats_returns, checkedI128_returns,
                setPlatformStats_returns, publish_returns, pure_returns]
              exact ⟨_, _, ⟨rfl, rfl⟩, (), _, rfl, (), _, ⟨token, tokens, htoken, htransfer, rfl⟩,
                _, _, ⟨rfl, rfl⟩, _, _, ⟨hfits, rfl, rfl⟩, (), _, rfl, (), _, rfl, rfl, rfl⟩

end Withdrawals

theorem step_reply {refusal : Bool → Address → ℤ → Option PredictXError} (x : Execution N)
    (c : UserCall N) (hother : c.user ≠ N.market)
    (hdemand : ∀ token, x.final.market.tokenAddress = some token → N.MovesOnDemand token)
    (hrefusal : ∀ token, x.final.market.tokenAddress = some token →
      RefusedWith N x.final.tokens token refusal)
    (hfits : MarketFits (effect c (reply refusal c (view x.final)) (view x.final)).market) :
    (step x.final c.action).1 = reply refusal c (view x.final) := by
  obtain ⟨signatures, user, op⟩ := c
  cases op with
  | stake pollId amount side =>
      refine (commit_fst.trans (reply_map Value.stake)).trans
        (reply_stake hother hdemand hrefusal ?_)
      intro value hvalue
      change MarketFits
        (effect _ (stakeReply refusal signatures user pollId _ amount side) _).market at hfits
      rw [hvalue] at hfits
      exact hfits
  | emergencyWithdraw pollId =>
      exact (commit_fst.trans (reply_map Value.amount)).trans (reply_withdraw x hdemand)

theorem effect_failed (c : UserCall N) {r : Reply PredictXError Value}
    (h : ∀ value, r ≠ .ok value) (l : Ledger) : effect c r l = l := by
  unfold effect
  split
  · exact absurd rfl (h _)
  · exact absurd rfl (h _)
  · rfl

theorem transferred_paid {w : World N} {tokens : N.State} {token src dst : Address}
    {signed : Bool} {amount : ℤ} (token_found : w.market.tokenAddress = some token)
    (transferred : N.transfer w.tokens token signed src dst amount = some tokens) :
    N.balance tokens = paid (view w) src dst amount := by
  funext token' holder
  rw [N.transfer_balance transferred, paid, token_found]
  simp only [Option.some.injEq, eq_comm]

theorem view_step (w : World N) (c : UserCall N) :
    view (step w c.action).2 = effect c (step w c.action).1 (view w) := by
  have hstep := step_cases w c.action
  generalize (step w c.action).1 = r at hstep ⊢
  generalize (step w c.action).2 = w' at hstep ⊢
  obtain ⟨signatures, user, op⟩ := c
  cases op with
  | stake pollId amount side =>
      cases hstep with
      | rejected failed => exact (effect_failed _ failed _).symm
      | market committed =>
          cases committed with
          | @stake _ _ _ _ _ poll _ tokens _ _ _ poll_found _ _ _ token_found transferred _
              record_eq =>
              subst record_eq
              have hmarket : stakedMarket w.market poll ⟨user, pollId, amount, side, false, w.now⟩ =
                  placed w.now user pollId amount side w.market := by
                rw [placed, modify_of_lookup poll_found]
                rfl
              change Ledger.mk _ (stakedMarket w.market poll _) _ (N.balance tokens) _ = _
              rw [transferred_paid token_found transferred]
              exact congrArg (Ledger.mk w.now · w.oracles _ _) hmarket
  | emergencyWithdraw pollId =>
      cases hstep with
      | rejected failed => exact (effect_failed _ failed _).symm
      | market committed =>
          cases committed with
          | @emergencyWithdraw _ _ _ _ _ _ tokens _ _ _ _ _ _ token_found transferred =>
              change Ledger.mk _ _ _ (N.balance tokens) _ = _
              rw [transferred_paid token_found transferred]
              rfl

theorem tokenAddress_effect (c : UserCall N) (r : Reply PredictXError Value) (l : Ledger) :
    (effect c r l).market.tokenAddress = l.market.tokenAddress := by
  rcases effect_cases c r with ⟨_, _, _, heffect⟩ | ⟨_, _, heffect⟩ | heffect
  · rw [heffect]
    rfl
  · rw [heffect]
    rfl
  · rw [heffect]

theorem effect_own (c : UserCall N) (r : Reply PredictXError Value) (l : Ledger) :
    effect c r.own l = effect c r l := by
  cases r with
  | ok => rfl
  | error => rfl
  | trap passedOn =>
      have hfailed (told : Option PredictXError) (value : Value) : .trap told ≠ Reply.ok value := by
        intro h
        cases h
      exact (effect_failed c (hfailed none) l).trans (effect_failed c (hfailed passedOn) l).symm

/-- The reply where the token refuses without an error. -/
def ownReply : UserCall N → Ledger → Reply PredictXError Value :=
  reply fun _ _ _ => none

theorem own_reply (refusal : Bool → Address → ℤ → Option PredictXError) (c : UserCall N)
    (l : Ledger) : (reply refusal c l).own = ownReply c l := by
  obtain ⟨signatures, user, op⟩ := c
  cases op with
  | stake pollId amount side =>
      simp only [ownReply, reply, stakeReply, stakePayment]
      repeat' split
      all_goals rfl
  | emergencyWithdraw pollId =>
      simp only [ownReply, reply, withdrawReply]
      repeat' split
      all_goals rfl

/-- What a refused staker is told makes no difference to the ledger. -/
theorem effect_reply (refusal : Bool → Address → ℤ → Option PredictXError) (c : UserCall N)
    (l : Ledger) : effect c (reply refusal c l) l = effect c (ownReply c l) l := by
  rw [← effect_own, own_reply]

/-- What the calls leave where no number has a bound. -/
def unboundedRun (l : Ledger) (calls : List (UserCall N)) : Ledger :=
  run (respond ownReply effect) l calls

theorem step_own (x : Execution N) (c : UserCall N) (hother : c.user ≠ N.market)
    (hdemand : ∀ token, x.final.market.tokenAddress = some token → N.MovesOnDemand token)
    (hfits : MarketFits (effect c (ownReply c (view x.final)) (view x.final)).market) :
    (step x.final c.action).1.own = ownReply c (view x.final) := by
  -- Whatever the token's error in this state is, it is left out.
  let refusal : Bool → Address → ℤ → Option PredictXError := fun signed src amount =>
    x.final.market.tokenAddress.bind fun token =>
      (N.transferError x.final.tokens token signed src N.market amount).bind PredictXError.ofCode
  have hrefusal : ∀ token, x.final.market.tokenAddress = some token →
      RefusedWith N x.final.tokens token refusal := by
    intro token htoken signed src amount _
    simp only [refusal, htoken, Option.bind_some]
  rw [step_reply x c hother hdemand hrefusal (by rw [effect_reply]; exact hfits), own_reply]

theorem effect_step (x : Execution N) (c : UserCall N) (hother : c.user ≠ N.market)
    (hdemand : ∀ token, x.final.market.tokenAddress = some token → N.MovesOnDemand token)
    (hfits : MarketFits (effect c (ownReply c (view x.final)) (view x.final)).market) :
    view (step x.final c.action).2 = effect c (ownReply c (view x.final)) (view x.final) := by
  rw [view_step, ← effect_own, step_own x c hother hdemand hfits]

/-- A run of users' calls answers, and changes the ledger, as its view does;
`told` is what is compared of an answer. -/
theorem run_simulated {P : Address → Prop}
    {told : Reply PredictXError Value → Reply PredictXError Value}
    {refusal : Bool → Address → ℤ → Option PredictXError}
    (hdemand : ∀ token, P token → N.MovesOnDemand token)
    (hreply : ∀ (x : Execution N) (c : UserCall N), c.user ≠ N.market →
      (∀ token, x.final.market.tokenAddress = some token → P token) →
      MarketFits (effect c (ownReply c (view x.final)) (view x.final)).market →
        told (step x.final c.action).1 = reply refusal c (view x.final))
    (calls : List (UserCall N)) (x : Execution N) (hothers : ∀ c ∈ calls, c.user ≠ N.market)
    (htoken : ∀ token, x.final.market.tokenAddress = some token → P token)
    (hfits : ∀ earlier, earlier <+: calls →
      MarketFits (unboundedRun (view x.final) earlier).market) :
    (trace step x.final (calls.map UserCall.action)).map (told ·.output) =
        (trace (respond (reply refusal) effect) (view x.final) calls).map (·.output) ∧
      view (x.andThen (calls.map UserCall.action)).final = unboundedRun (view x.final) calls := by
  -- After the first call the rest starts from a run that is one transaction longer.
  induction calls generalizing x with
  | nil =>
      rw [Execution.final_andThen]
      exact ⟨rfl, rfl⟩
  | cons c calls ih =>
      have hother := hothers c List.mem_cons_self
      have hfirst := hfits [c] (List.prefix_append [c] calls)
      have hview := effect_step x c hother (fun token h => hdemand token (htoken token h)) hfirst
      have hnext : (x.andThen [c.action]).final = (step x.final c.action).2 :=
        Execution.final_andThen x [c.action]
      have hsame : (step x.final c.action).2.market.tokenAddress = x.final.market.tokenAddress :=
        (congrArg (fun l : Ledger => l.market.tokenAddress) hview).trans (tokenAddress_effect _ _ _)
      obtain ⟨houtputs, hfinal⟩ := ih (x.andThen [c.action])
        (fun d hd => hothers d (List.mem_cons_of_mem _ hd))
        (by rw [hnext, hsame]; exact htoken)
        (by
          rw [hnext, hview]
          intro earlier hearlier
          exact hfits (c :: earlier) (List.cons_prefix_cons.mpr ⟨rfl, hearlier⟩))
      rw [hnext, hview] at houtputs hfinal
      constructor
      · change told (step x.final c.action).1 :: _ = reply refusal c (view x.final) ::
          (trace _ (effect c (reply refusal c (view x.final)) (view x.final)) calls).map _
        rw [hreply x c hother htoken hfirst, effect_reply]
        exact congrArg _ houtputs
      · rw [Execution.final_andThen, hnext] at hfinal
        rw [Execution.final_andThen]
        exact hfinal

theorem pairwise_independent (refusal : Bool → Address → ℤ → Option PredictXError)
    {calls : List (UserCall N)} (distinct : (calls.map (·.user)).Nodup)
    (others : ∀ c ∈ calls, c.user ≠ N.market) :
    calls.Pairwise fun c d => Independent (reply refusal) effect d c := by
  refine (List.pairwise_map.mp distinct).imp_of_mem ?_
  intro c d _ hd hne
  exact independent refusal (Ne.symm hne) (others d hd)

theorem outputs_perm {told : Reply PredictXError Value → Reply PredictXError Value}
    {refusal : Bool → Address → ℤ → Option PredictXError} {x : Execution N}
    {calls : List (UserCall N)} (distinct : (calls.map (·.user)).Nodup)
    (others : ∀ c ∈ calls, c.user ≠ N.market)
    (houtputs : (trace step x.final (calls.map UserCall.action)).map (told ·.output) =
      (trace (respond (reply refusal) effect) (view x.final) calls).map (·.output)) :
    (trace step x.final (calls.map UserCall.action)).map (told ·.output) =
      calls.map fun c => reply refusal c (view x.final) := by
  rw [houtputs, replies_eq calls (pairwise_independent refusal distinct others)]

/-- Calls by different users, made one after the other at one time, get the
same replies and leave the same ledger in every order, as long as no number
outgrows its type in the two orders compared.  The errors that the token
refuses payments with are among the replies if its errors do not depend on its
state. -/
theorem operations_commute (x : Execution N) {calls calls' : List (UserCall N)}
    (perm : calls.Perm calls') (distinct : (calls.map (·.user)).Nodup)
    (others : ∀ c ∈ calls, c.user ≠ N.market)
    (demand : ∀ token, x.final.market.tokenAddress = some token → N.MovesOnDemand token)
    (fits : ∀ earlier, earlier <+: calls →
      MarketFits (unboundedRun (view x.final) earlier).market)
    (fits' : ∀ earlier, earlier <+: calls' →
      MarketFits (unboundedRun (view x.final) earlier).market) :
    (∃ result : UserCall N → Reply PredictXError Value,
      (trace step x.final (calls.map UserCall.action)).map (·.output.own) = calls.map result ∧
        (trace step x.final (calls'.map UserCall.action)).map (·.output.own) =
          calls'.map result) ∧
      ((∀ token, x.final.market.tokenAddress = some token → N.RefusesAlike token) →
        ∃ result : UserCall N → Reply PredictXError Value,
          (trace step x.final (calls.map UserCall.action)).map (·.output) = calls.map result ∧
            (trace step x.final (calls'.map UserCall.action)).map (·.output) =
              calls'.map result) ∧
      (x.andThen (calls.map UserCall.action)).final.market =
        (x.andThen (calls'.map UserCall.action)).final.market ∧
      (x.andThen (calls.map UserCall.action)).final.oracles =
        (x.andThen (calls'.map UserCall.action)).final.oracles ∧
      (x.andThen (calls.map UserCall.action)).final.now =
        (x.andThen (calls'.map UserCall.action)).final.now ∧
      (∀ token holder,
        N.balance (x.andThen (calls.map UserCall.action)).final.tokens token holder =
          N.balance (x.andThen (calls'.map UserCall.action)).final.tokens token holder) ∧
      (x.andThen (calls.map UserCall.action)).final.events.Perm
        (x.andThen (calls'.map UserCall.action)).final.events := by
  have others' : ∀ c ∈ calls', c.user ≠ N.market := fun c hc => others c (perm.mem_iff.mpr hc)
  have distinct' : (calls'.map (·.user)).Nodup := (perm.map _).nodup_iff.mp distinct
  have hown := @run_simulated N _ Reply.own (fun _ _ _ => none) (fun _ h => h)
    fun x c hother hdemand hfits => step_own x c hother hdemand hfits
  obtain ⟨houtputs, hfinal⟩ := hown calls x others demand fits
  obtain ⟨houtputs', hfinal'⟩ := hown calls' x others' demand fits'
  have hindependent : ∀ c ∈ calls, ∀ d ∈ calls, c ≠ d →
      Independent (reply fun _ _ _ => none) effect c d := by
    intro c hc d hd hne
    exact independent _ (fun huser => hne (List.inj_on_of_nodup_map distinct hc hd huser))
      (others c hc)
  have hview : view (x.andThen (calls.map UserCall.action)).final =
      view (x.andThen (calls'.map UserCall.action)).final := by
    rw [hfinal, hfinal']
    exact run_perm perm hindependent (view x.final)
  refine ⟨⟨_, outputs_perm distinct others houtputs, outputs_perm distinct' others' houtputs'⟩, ?_,
    congrArg Ledger.market hview, congrArg Ledger.oracles hview, congrArg Ledger.now hview, ?_, ?_⟩
  · intro alike
    obtain ⟨refusal, hrefusal⟩ : ∃ refusal, ∀ token, x.final.market.tokenAddress = some token →
        ∀ s, RefusedWith N s token refusal := by
      cases htoken : x.final.market.tokenAddress with
      | none => exact ⟨fun _ _ _ => none, fun _ h => absurd h (Option.some_ne_none _).symm⟩
      | some token =>
          obtain ⟨refusal, hrefusal⟩ := exists_refusal (alike token htoken)
          exact ⟨refusal, fun _ h => Option.some.inj h ▸ hrefusal⟩
    have hexact := @run_simulated N
      (fun token => N.MovesOnDemand token ∧ ∀ s, RefusedWith N s token refusal) id refusal
      (fun _ h => h.1) fun x c hother htoken hfits =>
        step_reply x c hother (fun token h => (htoken token h).1)
          (fun token h => (htoken token h).2 _) (by rw [effect_reply]; exact hfits)
    have htoken := fun token h => And.intro (demand token h) (hrefusal token h)
    exact ⟨_, outputs_perm distinct others (hexact calls x others htoken fits).1,
      outputs_perm distinct' others' (hexact calls' x others' htoken fits').1⟩
  · intro token holder
    exact congrFun (congrFun (congrArg Ledger.balance hview) token) holder
  · exact Multiset.coe_eq_coe.mp (congrArg Ledger.events hview)

section Sample

/-- Poll 1 was cancelled, but still takes stakes. -/
def openCancelledRun : Execution sampleNetwork :=
  sampleRun [.market allSign (.stake ⟨5⟩ 1 20000000 .yes), .market allSign (.cancelPoll ⟨1⟩ 1)]

def depositCall : UserCall sampleNetwork := ⟨allSign, ⟨6⟩, .stake 1 30000000 .no⟩

def refundCall : UserCall sampleNetwork := ⟨allSign, ⟨5⟩, .emergencyWithdraw 1⟩

theorem operations_commute_sample :
    (openCancelledRun.andThen ([depositCall, refundCall].map UserCall.action)).final.market =
        (openCancelledRun.andThen ([refundCall, depositCall].map UserCall.action)).final.market ∧
      ∃ result : UserCall sampleNetwork → Reply PredictXError Value,
        (trace step openCancelledRun.final
            ([depositCall, refundCall].map UserCall.action)).map (·.output) =
          [depositCall, refundCall].map result := by
  have hfits : ∀ earlier ∈ [depositCall, refundCall].inits,
      MarketFits (unboundedRun (view openCancelledRun.final) earlier).market := by
    decide +kernel
  have hfits' : ∀ earlier ∈ [refundCall, depositCall].inits,
      MarketFits (unboundedRun (view openCancelledRun.final) earlier).market := by
    decide +kernel
  obtain ⟨-, hexact, hmarket, -⟩ := operations_commute openCancelledRun (List.Perm.swap _ _ _)
    (by decide) (by decide) (fun token _ => storeNetwork_movesOnDemand ⟨0⟩ token)
    (fun earlier h => hfits earlier ((List.mem_inits _ _).mpr h))
    (fun earlier h => hfits' earlier ((List.mem_inits _ _).mpr h))
  obtain ⟨result, hresult, -⟩ := hexact fun token _ => storeNetwork_refusesAlike ⟨0⟩ token
  exact ⟨hmarket, result, hresult⟩

end Sample

end PredictX.CommutingCalls
