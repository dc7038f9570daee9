import PredictX.Solvency

namespace PredictX.Refunds

open PredictX.Bookkeeping
open PredictX.CommittedCalls
open PredictX.Escrow
open PredictX.EscrowRefinement
open PredictX.FiniteStore
open PredictX.HostCall
open PredictX.HostCall.Call
open PredictX.LabelledRuns
open PredictX.MarketStorage
open PredictX.PredictionMarket
open PredictX.SharedTypes
open PredictX.Solvency
open PredictX.System
open PredictX.TokenContracts
open PredictX.VotingOracle

variable {N : Network}

theorem token_of_stake {w : World N} (hcons : Consistent N.market w.market) {pollId : ℕ}
    {user : Address} {record : Stake}
    (staked : w.market.stakes.lookup (pollId, user) = some record) :
    ∃ token, w.market.tokenAddress = some token := by
  apply Option.ne_none_iff_exists'.mp
  intro hnone
  have hpolls := (hcons.unconfigured (hcons.configured.mp hnone)).2
  have hfound := (hcons.record pollId user record staked).poll_found
  rw [hpolls] at hfound
  exact Finmap.notMem_empty hfound

theorem refund_payable {w : World N} {user token : Address} {pollId : ℕ} {record : Stake}
    (hcons : Consistent N.market w.market)
    (hcovered : total (unclaimedAmount w.market) w.market.stakes ≤ marketBalance w token)
    (hpays : N.PaysOut token)
    (staked : w.market.stakes.lookup (pollId, user) = some record)
    (unclaimed : w.market.hasEmergencyClaimed pollId user = false) :
    ∃ tokens, N.transfer w.tokens token true N.market user record.amount = some tokens := by
  have hfunds := (hcons.unclaimed_covers staked unclaimed).trans hcovered
  have hnonneg : 0 ≤ record.amount := (hcons.record pollId user record staked).positive.le
  exact Option.isSome_iff_exists.mp (hpays w.tokens user record.amount hnonneg hfunds)

theorem emergencyWithdraw_accepted {w : World N} {signatures : Signatures N}
    {user oracleId token : Address} {pollId : ℕ} {storage : OracleStorage} {record : Stake}
    (hcons : Consistent N.market w.market)
    (hcovered : total (unclaimedAmount w.market) w.market.stakes ≤ marketBalance w token)
    (hpays : N.PaysOut token) (signed : signatures.accepts N.market user = true)
    (token_found : w.market.tokenAddress = some token)
    (oracle_found : w.market.votingOracle = some oracleId)
    (deployed : w.oracles.lookup oracleId = some storage)
    (refundable : Refundable storage pollId w.now)
    (staked : w.market.stakes.lookup (pollId, user) = some record)
    (unclaimed : w.market.hasEmergencyClaimed pollId user = false) :
    ∃ w', step w (.market signatures (.emergencyWithdraw user pollId)) =
        (.ok (.amount record.amount), w') ∧
      w'.oracles = w.oracles ∧ w'.market = refundedMarket w.market user pollId record.amount ∧
      N.transfer w.tokens token true N.market user record.amount = some w'.tokens := by
  obtain ⟨tokens, transferred⟩ := refund_payable hcons hcovered hpays staked unclaimed
  refine ⟨{ w with
    market := refundedMarket w.market user pollId record.amount
    tokens := tokens
    events := w.events ++ [.emergencyWithdrawal pollId user record.amount] },
    step_market.mpr ?_, rfl, rfl, transferred⟩
  rw [MarketOp.execute, bind_returns]
  refine ⟨record.amount, _, emergencyWithdraw_returns.mpr ?_, pure_returns.mpr ⟨rfl, rfl⟩⟩
  exact .emergencyWithdraw (callEnv_authorises.trans signed) unclaimed oracle_found deployed
    refundable staked token_found transferred (hcons.refund_fits staked unclaimed)

theorem covered_run (x : Execution N) {token : Address}
    (htoken : x.final.market.tokenAddress = some token) :
    total (unclaimedAmount x.final.market) x.final.market.stakes ≤
      marketBalance x.final token := by
  have hbalance := balance_run x htoken
  have hfunds := directFunds_nonneg x token
  omega

theorem query_checkEmergencyEligible {w : World N} {pollId : ℕ} :
    query w (checkEmergencyEligible pollId) = .ok true ↔
      Configured w (fun s => Refundable s pollId w.now) := by
  simp [query_eq_ok, checkEmergencyEligible_true, callEnv]

/-- A withdrawal the user signs goes through exactly when the view says the
poll is eligible and the user has a stake that was not paid back; it then pays
that stake and nothing else. -/
theorem emergencyWithdraw_iff_eligible (x : Execution N) (signatures : Signatures N)
    (user : Address) (pollId : ℕ) (signed : signatures.accepts N.market user = true)
    (pays : ∀ token, x.final.market.tokenAddress = some token → N.PaysOut token) :
    ((∃ value, (step x.final (.market signatures (.emergencyWithdraw user pollId))).1 =
          .ok value) ↔
        query x.final (checkEmergencyEligible pollId) = .ok true ∧
          (pollId, user) ∈ x.final.market.stakes ∧
          x.final.market.hasEmergencyClaimed pollId user = false) ∧
      ∀ value w', step x.final (.market signatures (.emergencyWithdraw user pollId)) =
          (.ok value, w') →
        ∃ record token, x.final.market.stakes.lookup (pollId, user) = some record ∧
          x.final.market.tokenAddress = some token ∧ value = .amount record.amount ∧
          ∀ token' holder, N.balance w'.tokens token' holder =
            N.balance x.final.tokens token' holder +
              if token' = token then moved N.market user holder record.amount else 0 := by
  have hcons := consistent_run x
  rw [query_checkEmergencyEligible]
  refine ⟨⟨?_, ?_⟩, ?_⟩
  · rintro ⟨value, hok⟩
    obtain ⟨_, hcommitted⟩ := committed_of_ok hok
    cases hcommitted with
    | emergencyWithdraw _ unclaimed oracle_found deployed refundable staked =>
        exact ⟨⟨_, _, oracle_found, deployed, refundable⟩,
          Finmap.mem_of_lookup_eq_some staked, unclaimed⟩
  · rintro ⟨⟨oracleId, storage, horacle, hstorage, hrefundable⟩, hstake, hunclaimed⟩
    obtain ⟨record, hrecord⟩ := Finmap.mem_iff.mp hstake
    obtain ⟨token, htoken⟩ := token_of_stake hcons hrecord
    obtain ⟨w', hstep, -⟩ := emergencyWithdraw_accepted hcons (covered_run x htoken)
      (pays token htoken) signed htoken horacle hstorage hrefundable hrecord hunclaimed
    exact ⟨_, by rw [hstep]⟩
  · intro value w' hok
    cases committed_of_returns (step_market.mp hok) with
    | emergencyWithdraw _ _ _ _ _ staked token_found transferred =>
        exact ⟨_, _, staked, token_found, rfl, N.transfer_balance transferred⟩

def cancelledRun : Execution sampleNetwork :=
  sampleRun
    [.market allSign (.stake ⟨5⟩ 1 20000000 .yes), .market allSign (.stake ⟨6⟩ 1 30000000 .no),
      .market allSign (.cancelPoll ⟨1⟩ 1)]

theorem cancelledRun_oracle : cancelledRun.final.market.votingOracle = some ⟨2⟩ := by
  decide +kernel

theorem cancelledRun_pays (token : Address) : sampleNetwork.PaysOut token :=
  storeNetwork_paysOut ⟨0⟩ token

theorem emergencyWithdraw_iff_eligible_sample :
    ∃ value, (step cancelledRun.final (.market allSign (.emergencyWithdraw ⟨5⟩ 1))).1 =
      .ok value :=
  (emergencyWithdraw_iff_eligible cancelledRun allSign ⟨5⟩ 1 (by decide)
    (fun token _ => cancelledRun_pays token)).1.mpr
    ⟨by decide +kernel, by decide +kernel, by decide +kernel⟩

def refundCalls (signatures : ℕ × Address → Signatures N) (due : List (ℕ × Address)) :
    List (Action N) :=
  due.map fun k => .market (signatures k) (.emergencyWithdraw k.2 k.1)

def amountAt (m : Market) (k : ℕ × Address) : ℤ := ((m.stakes.lookup k).map (·.amount)).getD 0

/-- The stake under the key was not paid back, and its owner can have it. -/
structure RefundDue (w : World N) (s : OracleStorage) (signatures : Signatures N)
    (k : ℕ × Address) : Prop where
  signed : signatures.accepts N.market k.2 = true
  cancelled : s.pollStatusOf k.1 = .cancelled
  staked : k ∈ w.market.stakes
  unclaimed : w.market.hasEmergencyClaimed k.1 k.2 = false

theorem RefundDue.other {w w' : World N} {s : OracleStorage} {signatures : Signatures N}
    {k k' : ℕ × Address} {amount : ℤ} (h : RefundDue w s signatures k') (hne : k' ≠ k)
    (hmarket : w'.market = refundedMarket w.market k.2 k.1 amount) :
    RefundDue w' s signatures k' where
  signed := h.signed
  cancelled := h.cancelled
  staked := by
    rw [hmarket]
    exact h.staked
  unclaimed := by
    rw [hmarket, hasEmergencyClaimed_refunded, if_neg hne]
    exact h.unclaimed

theorem RefundDue.accepted {x : Execution N} {oracleId : Address} {s : OracleStorage}
    {signatures : Signatures N} {k : ℕ × Address} (h : RefundDue x.final s signatures k)
    (pays : ∀ token, x.final.market.tokenAddress = some token → N.PaysOut token)
    (oracle_found : x.final.market.votingOracle = some oracleId)
    (deployed : x.final.oracles.lookup oracleId = some s) :
    ∃ w', step x.final (.market signatures (.emergencyWithdraw k.2 k.1)) =
        (.ok (.amount (amountAt x.final.market k)), w') ∧ w'.oracles = x.final.oracles ∧
      w'.market = refundedMarket x.final.market k.2 k.1 (amountAt x.final.market k) ∧
      ∀ token, x.final.market.tokenAddress = some token → ∀ holder, N.balance w'.tokens token
        holder = N.balance x.final.tokens token holder +
          moved N.market k.2 holder (amountAt x.final.market k) := by
  obtain ⟨record, hrecord⟩ := Finmap.mem_iff.mp h.staked
  obtain ⟨token, htoken⟩ := token_of_stake (consistent_run x) hrecord
  obtain ⟨w', hstep, horacles, hmarket, htransfer⟩ :=
    emergencyWithdraw_accepted (consistent_run x) (covered_run x htoken) (pays token htoken)
      h.signed htoken oracle_found deployed (.inl h.cancelled) hrecord h.unclaimed
  have hamount : amountAt x.final.market k = record.amount := by
    simp [amountAt, hrecord]
  rw [hamount]
  refine ⟨w', hstep, horacles, hmarket, ?_⟩
  intro token' htoken' holder
  cases htoken.symm.trans htoken'
  rw [N.transfer_balance htransfer, if_pos rfl]

section Flow

variable {market user : Address} (other : user ≠ market) (k : ℕ × Address) (amount : ℤ)
include other

theorem moved_in : moved k.2 market user amount = -amountIf (·.2 = user) k amount := by
  simp [moved, amountIf, other, eq_comm (a := user)]

theorem moved_out : moved market k.2 user amount = amountIf (·.2 = user) k amount := by
  simp [moved, amountIf, other, eq_comm (a := user)]

end Flow

/-- What the refunds pay to a user. -/
def dueTo (user : Address) (m : Market) (due : List (ℕ × Address)) : ℤ :=
  ((due.filter fun k => k.2 = user).map (amountAt m)).sum

theorem dueTo_cons {user : Address} (other : user ≠ N.market) (m : Market) (k : ℕ × Address)
    (due : List (ℕ × Address)) :
    dueTo user m (k :: due) = moved N.market k.2 user (amountAt m k) + dueTo user m due := by
  rw [moved_out other, amountIf, dueTo]
  by_cases huser : k.2 = user
  · simp [dueTo, huser]
  · simp [dueTo, huser]

theorem refundCalls_accepted {signatures : ℕ × Address → Signatures N} {oracleId : Address}
    {storage : OracleStorage} (due : List (ℕ × Address)) (x : Execution N)
    (pays : ∀ token, x.final.market.tokenAddress = some token → N.PaysOut token)
    (oracle_found : x.final.market.votingOracle = some oracleId)
    (deployed : x.final.oracles.lookup oracleId = some storage)
    (hdue : ∀ k ∈ due, RefundDue x.final storage (signatures k) k) (once : due.Nodup) :
    (trace step x.final (refundCalls signatures due)).map (·.output) =
        due.map (fun k => .ok (.amount (amountAt x.final.market k))) ∧
      (x.andThen (refundCalls signatures due)).final.market.stakes = x.final.market.stakes ∧
      (x.andThen (refundCalls signatures due)).final.market.tokenAddress =
        x.final.market.tokenAddress ∧
      (∀ k, (x.andThen (refundCalls signatures due)).final.market.hasEmergencyClaimed k.1 k.2 =
        (x.final.market.hasEmergencyClaimed k.1 k.2 || decide (k ∈ due))) ∧
      ∀ token, x.final.market.tokenAddress = some token → ∀ user, user ≠ N.market →
        N.balance (x.andThen (refundCalls signatures due)).final.tokens token user =
          N.balance x.final.tokens token user + dueTo user x.final.market due := by
  induction due generalizing x with
  | nil => simp [refundCalls, trace, Execution.andThen, dueTo]
  | cons k due ih =>
      obtain ⟨hnotMem, hnodup⟩ := List.nodup_cons.mp once
      obtain ⟨w', hstep, horacles, hmarket, hmoved⟩ :=
        (hdue k List.mem_cons_self).accepted pays oracle_found deployed
      have hrest : ∀ k' ∈ due, RefundDue w' storage (signatures k') k' := by
        intro k' hk'
        refine (hdue k' (List.mem_cons_of_mem _ hk')).other ?_ hmarket
        rintro rfl
        exact hnotMem hk'
      have hnext : (x.andThen [.market (signatures k) (.emergencyWithdraw k.2 k.1)]).final =
          w' := by
        rw [Execution.final_andThen]
        exact congrArg Prod.snd hstep
      have hassoc : x.andThen (refundCalls signatures (k :: due)) =
          (x.andThen [.market (signatures k) (.emergencyWithdraw k.2 k.1)]).andThen
            (refundCalls signatures due) := by
        simp [Execution.andThen, refundCalls]
      have hlater := ih (x.andThen [.market (signatures k) (.emergencyWithdraw k.2 k.1)])
      rw [hnext, horacles] at hlater
      simp only [hmarket] at hlater
      obtain ⟨houtputs, hstakes, htokens, hclaims, hpaid⟩ :=
        hlater pays oracle_found deployed hrest hnodup
      rw [hassoc]
      refine ⟨?_, hstakes, htokens, ?_, ?_⟩
      · change (step x.final _).1 ::
          (trace step (step x.final _).2 (refundCalls signatures due)).map (·.output) = _
        rw [hstep]
        exact congrArg (_ :: ·) houtputs
      · intro k'
        rw [hclaims, hasEmergencyClaimed_refunded]
        by_cases hk : k' = k
        · simp [hk]
        · rw [if_neg hk]
          simp [hk]
      · intro token htoken user other
        rw [hpaid token htoken user other, hmoved token htoken, dueTo_cons other, add_assoc]
        rfl

/-- How a call of the market changed a holder's balance. -/
def flow (token user : Address) (e : Transaction N) : ℤ :=
  match e.input with
  | .market .. => N.balance e.after.tokens token user - N.balance e.before.tokens token user
  | _ => 0

/-- The tokens a user got from a call of the market. -/
def received (token user : Address) (e : Transaction N) : ℤ := max (flow token user e) 0

/-- The tokens a call of the market took from a user. -/
def deposited (token user : Address) (e : Transaction N) : ℤ := max (-flow token user e) 0

theorem amountIf_nonneg (user : Address) (k : ℕ × Address) {amount : ℤ} (h : 0 ≤ amount) :
    0 ≤ amountIf (·.2 = user) k amount := by
  unfold amountIf
  split
  · exact h
  · exact le_rfl

theorem flow_step {w w' : World N} {a : Action N} {reply : Reply PredictXError Value}
    {token user : Address} (hstep : Step w a reply w')
    (htoken : ∀ t, w.market.tokenAddress = some t → t = token) (other : user ≠ N.market) :
    received token user ⟨w, a, reply, w'⟩ =
        (ledgerEvent token ⟨w, a, reply, w'⟩).paidOut (·.2 = user) ∧
      deposited token user ⟨w, a, reply, w'⟩ =
        (ledgerEvent token ⟨w, a, reply, w'⟩).paidIn (·.2 = user) := by
  unfold received deposited
  cases hstep with
  | rejected failed =>
      rw [ledgerEvent, accountEvent_rejected failed]
      cases a <;> simp [flow, Event.paidOut, Event.paidIn]
  | @market signatures op _ _ committed =>
      cases committed with
      | @stake staker token' pollId amount _ _ record _ _ _ _ _ _ _ _ token_found transferred =>
          obtain rfl := htoken _ token_found
          have hnonneg := amountIf_nonneg user (pollId, staker) (N.transfer_nonneg transferred)
          have hflow := N.transfer_balance transferred token' user
          rw [if_pos rfl] at hflow
          change _ = _ + moved staker N.market user amount at hflow
          rw [moved_in other (pollId, staker)] at hflow
          simp only [flow, hflow, ledgerEvent, accountEvent, Option.getD_some, Event.paidOut,
            Event.paidIn]
          omega
      | @emergencyWithdraw withdrawer _ token' pollId _ record _ _ _ _ _ _ _ token_found
          transferred =>
          obtain rfl := htoken _ token_found
          have hnonneg := amountIf_nonneg user (pollId, withdrawer) (N.transfer_nonneg transferred)
          have hflow := N.transfer_balance transferred token' user
          rw [if_pos rfl] at hflow
          change _ = _ + moved N.market withdrawer user record.amount at hflow
          rw [moved_out other (pollId, withdrawer)] at hflow
          simp only [flow, hflow, ledgerEvent, accountEvent, Option.getD_some, Event.paidOut,
            Event.paidIn]
          omega
      | _ => simp [flow, ledgerEvent, accountEvent, Event.paidOut, Event.paidIn]
  | _ => simp [flow, ledgerEvent, accountEvent, Event.paidOut, Event.paidIn]

theorem flow_of_mem {x : Execution N} {token user : Address}
    (htoken : x.final.market.tokenAddress = some token) (other : user ≠ N.market)
    {e : Transaction N} (he : e ∈ x.history) :
    received token user e = (ledgerEvent token e).paidOut (·.2 = user) ∧
      deposited token user e = (ledgerEvent token e).paidIn (·.2 = user) := by
  refine flow_step (Execution.step_of_mem he) ?_ other
  intro t ht
  exact Option.some.inj ((token_of_mem he ht).symm.trans htoken)

theorem returned_of_repaid (x : Execution N) {token user : Address}
    (htoken : x.final.market.tokenAddress = some token) (other : user ≠ N.market)
    (hall : ∀ k ∈ x.final.market.stakes, x.final.market.hasEmergencyClaimed k.1 k.2 = true) :
    (x.history.map (received token user)).sum = (x.history.map (deposited token user)).sum := by
  have hconfigured : ∀ t, x.final.market.tokenAddress = some t → t = token := by
    intro t ht
    exact Option.some.inj (ht.symm.trans htoken)
  obtain ⟨b, hreplay, hrep⟩ := books_run x hconfigured
  have hbooks := hreplay.paidOut_eq_paidIn (·.2 = user) fun k hk _ => hrep.all_repaid hall hk
  rw [List.map_map, List.map_map] at hbooks
  calc (x.history.map (received token user)).sum
      = (x.history.map (Event.paidOut (·.2 = user) ∘ ledgerEvent token)).sum := by
        rw [List.map_congr_left fun e he => (flow_of_mem htoken other he).1]
        rfl
    _ = (x.history.map (Event.paidIn (·.2 = user) ∘ ledgerEvent token)).sum := hbooks
    _ = (x.history.map (deposited token user)).sum := by
        rw [List.map_congr_left fun e he => (flow_of_mem htoken other he).2]
        rfl

/-- Where every poll with a stake is cancelled, the refunds that are due can
be made in any order: each pays its own stake to its staker, the locked value
ends at zero, the market keeps exactly what others sent to it, and over the
whole history every user has got back from the market what it took. -/
theorem unwinding (x : Execution N) (signatures : ℕ × Address → Signatures N)
    (due : List (ℕ × Address))
    (pays : ∀ token, x.final.market.tokenAddress = some token → N.PaysOut token)
    (cancelled : Configured x.final fun s =>
      ∀ k ∈ x.final.market.stakes, s.pollStatusOf k.1 = .cancelled)
    (signed : ∀ k ∈ due, (signatures k).accepts N.market k.2 = true)
    (once : due.Nodup)
    (due_iff : ∀ k, k ∈ due ↔ k ∈ x.final.market.stakes ∧
      x.final.market.hasEmergencyClaimed k.1 k.2 = false) :
    (trace step x.final (refundCalls signatures due)).map (·.output) =
        due.map (fun k => .ok (.amount (amountAt x.final.market k))) ∧
      (x.andThen (refundCalls signatures due)).final.market.stats.totalValueLocked = 0 ∧
      ∀ token, x.final.market.tokenAddress = some token →
        marketBalance (x.andThen (refundCalls signatures due)).final token =
            directFunds x token ∧
          ∀ user, user ≠ N.market →
            N.balance (x.andThen (refundCalls signatures due)).final.tokens token user =
                N.balance x.final.tokens token user + dueTo user x.final.market due ∧
              ((x.andThen (refundCalls signatures due)).history.map (received token user)).sum =
                ((x.andThen (refundCalls signatures due)).history.map
                  (deposited token user)).sum := by
  obtain ⟨oracleId, storage, oracle_found, deployed, hcancelled⟩ := cancelled
  have hdue : ∀ k ∈ due, RefundDue x.final storage (signatures k) k := by
    intro k hk
    obtain ⟨hstaked, hunclaimed⟩ := (due_iff k).mp hk
    exact ⟨signed k hk, hcancelled k hstaked, hstaked, hunclaimed⟩
  obtain ⟨houtputs, hstakes, htokens, hclaims, hpaid⟩ :=
    refundCalls_accepted due x pays oracle_found deployed hdue once
  generalize hy : x.andThen (refundCalls signatures due) = y at *
  have hall : ∀ k ∈ y.final.market.stakes, y.final.market.hasEmergencyClaimed k.1 k.2 = true := by
    intro k hk
    rw [hstakes] at hk
    rw [hclaims]
    cases hclaimed : x.final.market.hasEmergencyClaimed k.1 k.2 with
    | false => simp [(due_iff k).mpr ⟨hk, hclaimed⟩]
    | true => rfl
  obtain ⟨_, _, b, hreplay, hrep⟩ := exists_books y
  have hzero := hrep.held_eq.symm.trans (Books.held_eq_zero (hrep.all_repaid hall))
  refine ⟨houtputs, ?_, ?_⟩
  · rw [(consistent_run y).locked, hzero]
  · intro token htoken
    refine ⟨?_, fun user other => ⟨hpaid token htoken user other, ?_⟩⟩
    · rw [balance_run y (htokens.trans htoken), hzero, zero_add, ← hy]
      apply directFunds_andThen
      intro a ha activity
      obtain ⟨k, -, rfl⟩ := List.mem_map.mp ha
      simp
    · exact returned_of_repaid y (htokens.trans htoken) other hall

theorem unwinding_sample :
    (cancelledRun.andThen (refundCalls (fun _ => allSign)
        [(1, ⟨6⟩), (1, ⟨5⟩)])).final.market.stats.totalValueLocked = 0 ∧
      sampleNetwork.balance (cancelledRun.andThen (refundCalls (fun _ => allSign)
          [(1, ⟨6⟩), (1, ⟨5⟩)])).final.tokens ⟨3⟩ ⟨6⟩ =
        sampleNetwork.balance cancelledRun.final.tokens ⟨3⟩ ⟨6⟩ + 30000000 := by
  obtain ⟨storage, hstorage⟩ := Finmap.mem_iff.mp
    (show (⟨2⟩ : Address) ∈ cancelledRun.final.oracles by decide +kernel)
  have hkeys : cancelledRun.final.market.stakes.keys = {(1, ⟨5⟩), (1, ⟨6⟩)} := by
    decide +kernel
  have hcancelled : ∀ k ∈ cancelledRun.final.market.stakes.keys,
      (cancelledRun.final.oracles.lookup ⟨2⟩).map (·.pollStatusOf k.1) = some .cancelled := by
    decide +kernel
  have hunclaimed : ∀ k ∈ cancelledRun.final.market.stakes.keys,
      cancelledRun.final.market.hasEmergencyClaimed k.1 k.2 = false := by
    decide +kernel
  have hdue : dueTo ⟨6⟩ cancelledRun.final.market [(1, ⟨6⟩), (1, ⟨5⟩)] = 30000000 := by
    decide +kernel
  rw [← hdue]
  refine (unwinding cancelledRun (fun _ => allSign) [(1, ⟨6⟩), (1, ⟨5⟩)]
    (fun token _ => cancelledRun_pays token) ⟨⟨2⟩, storage, cancelledRun_oracle, hstorage, ?_⟩
    (by decide) (by decide) ?_).2.imp_right fun h =>
      ((h ⟨3⟩ (by decide +kernel)).2 ⟨6⟩ (by decide)).1
  · intro k hk
    have hstatus := hcancelled k (Finmap.mem_keys.mpr hk)
    rw [hstorage] at hstatus
    exact Option.some.inj hstatus
  · intro k
    rw [← Finmap.mem_keys]
    constructor
    · intro hk
      have hmem : k ∈ cancelledRun.final.market.stakes.keys := by
        rw [hkeys]
        simpa [or_comm] using hk
      exact ⟨hmem, hunclaimed k hmem⟩
    · rintro ⟨hmem, -⟩
      rw [hkeys] at hmem
      simpa [or_comm] using hmem

end PredictX.Refunds
