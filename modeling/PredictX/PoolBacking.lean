import PredictX.Refunds

namespace PredictX.PoolBacking

open PredictX.Bookkeeping
open PredictX.CommittedCalls
open PredictX.Escrow
open PredictX.EscrowRefinement
open PredictX.FiniteStore
open PredictX.HostCall
open PredictX.LabelledRuns
open PredictX.MarketStorage
open PredictX.PredictionMarket
open PredictX.Refunds
open PredictX.SharedTypes
open PredictX.Solvency
open PredictX.System
open PredictX.TokenContracts

variable {N : Network}

def refundedAmount (m : Market) (k : ℕ × Address) (record : Stake) : ℤ :=
  if m.hasEmergencyClaimed k.1 k.2 = true then record.amount else 0

/-- The amounts paid back in a history. -/
def refundsPaid (h : List (Transaction N)) : ℤ :=
  ((h.filterMap accountEvent).map (Event.paidOut fun _ => True)).sum

def PoolsBacked (w : World N) : Prop :=
  ∀ token, w.market.tokenAddress = some token →
    total pollPools w.market.polls ≤ marketBalance w token

/-- The withdrawal passes the guards that `emergency_withdraw` makes before it
pays. -/
structure WithdrawalDue (w : World N) (signatures : Signatures N) (user : Address) (pollId : ℕ)
    (record : Stake) : Prop where
  signed : signatures.accepts N.market user = true
  unclaimed : w.market.hasEmergencyClaimed pollId user = false
  refundable : Configured w fun s => Refundable s pollId w.now
  staked : w.market.stakes.lookup (pollId, user) = some record

/-- What was paid back in the run and what is due now is at most what others
sent to the market directly. -/
def RefundCovered (x : Execution N) : Action N → Prop
  | .market signatures (.emergencyWithdraw user pollId) =>
      ∀ record token, WithdrawalDue x.final signatures user pollId record →
        x.final.market.tokenAddress = some token →
        refundsPaid x.history + record.amount ≤ directFunds x token
  | _ => True

theorem pools_eq {contract : Address} {m : Market} (h : Consistent contract m) :
    total pollPools m.polls =
      m.stats.totalValueLocked + total (refundedAmount m) m.stakes := by
  rw [h.pools, h.locked, ← total_add]
  apply total_congr
  intro k record _
  unfold stakeAmount unclaimedAmount refundedAmount
  split <;> omega

theorem refundsPaid_eq (x : Execution N) :
    refundsPaid x.history = total (refundedAmount x.final.market) x.final.market.stakes := by
  obtain ⟨token, _, b, hreplay, hrep⟩ := exists_books x
  rw [refundsPaid, ← sum_accountEvents token _ _ (fun _ => rfl), hreplay.paidOut_eq]
  apply total_eq_of_weightAt
  intro k
  simp only [weightAt, hrep.deposited]
  cases x.final.market.stakes.lookup k with
  | none => rfl
  | some record =>
      cases hclaimed : x.final.market.hasEmergencyClaimed k.1 k.2 <;>
        simp [amountIf, refundedAmount, hrep.repaid, hclaimed]

theorem poolsBacked_iff (x : Execution N) : PoolsBacked x.final ↔
    ∀ token, x.final.market.tokenAddress = some token →
      refundsPaid x.history ≤ directFunds x token := by
  have hcons := consistent_run x
  refine forall₂_congr fun token htoken => ?_
  rw [pools_eq hcons, balance_run x htoken, hcons.locked, refundsPaid_eq]
  exact add_le_add_iff_left _

/-- The same for every token that may yet be configured. -/
def Funded (x : Execution N) : Prop :=
  ∀ token, (∀ t, x.final.market.tokenAddress = some t → t = token) →
    refundsPaid x.history ≤ directFunds x token

theorem Funded.backed {x : Execution N} (h : Funded x) : PoolsBacked x.final := by
  rw [poolsBacked_iff]
  intro token htoken
  exact h token fun t ht => Option.some.inj (ht.symm.trans htoken)

section Steps

variable (x : Execution N) (a : Action N)

/-- What the transaction pays back. -/
def refundOf (e : Transaction N) : ℤ :=
  ((accountEvent e).map (Event.paidOut fun _ => True)).getD 0

theorem refundsPaid_andThen : refundsPaid (x.andThen [a]).history =
    refundsPaid x.history + refundOf (entry step x.final a) := by
  rw [Execution.history_andThen, refundsPaid, List.filterMap_append, List.map_append,
    List.sum_append]
  change _ + ((List.filterMap accountEvent [entry step x.final a]).map _).sum = _
  rw [refundOf]
  cases hevent : accountEvent (entry step x.final a) <;> simp [hevent, refundsPaid]

theorem directFunds_step (token : Address) : directFunds (x.andThen [a]) token =
    directFunds x token + directReceipt token (entry step x.final a) := by
  rw [directFunds, Execution.history_andThen, List.map_append, List.sum_append, ← add_assoc]
  change directFunds x token + (directReceipt token (entry step x.final a) + 0) = _
  rw [add_zero]

theorem refundOf_le {w w' : World N} {reply : Reply PredictXError Value}
    (hstep : Step w a reply w') :
    refundOf ⟨w, a, reply, w'⟩ = 0 ∨
      ∃ signatures user pollId record token,
        a = .market signatures (.emergencyWithdraw user pollId) ∧
        WithdrawalDue w signatures user pollId record ∧ w.market.tokenAddress = some token ∧
        refundOf ⟨w, a, reply, w'⟩ = record.amount := by
  cases hstep with
  | rejected failed =>
      rw [refundOf, accountEvent_rejected failed]
      exact .inl rfl
  | market committed =>
      cases committed with
      | emergencyWithdraw authorised unclaimed oracle_found deployed refundable staked
          token_found =>
          exact .inr ⟨_, _, _, _, _, rfl, ⟨callEnv_authorises.symm.trans authorised, unclaimed,
            ⟨_, _, oracle_found, deployed, refundable⟩, staked⟩, token_found, rfl⟩
      | _ => exact .inl rfl
  | _ => exact .inl rfl

theorem funded_step (hcovered : RefundCovered x a) (h : Funded x) : Funded (x.andThen [a]) := by
  intro token honly
  have hstep := step_cases x.final a
  have hkept : ∀ t, x.final.market.tokenAddress = some t → t = token := by
    intro t ht
    refine honly t ?_
    rw [Execution.final_andThen]
    exact token_kept (consistent_run x) hstep ht
  have hreceipt : 0 ≤ directReceipt token (entry step x.final a) := directReceipt_nonneg hstep token
  rw [refundsPaid_andThen, directFunds_step]
  rcases refundOf_le a hstep with hnone | ⟨signatures, user, pollId, record, t, rfl, hdue, ht, hpaid⟩
  · have hbefore := h token hkept
    change refundsPaid x.history + refundOf ⟨_, a, _, _⟩ ≤ _
    omega
  · obtain rfl := hkept t ht
    have hcover := hcovered record t hdue ht
    change refundsPaid x.history + refundOf ⟨_, _, _, _⟩ ≤ _
    omega

end Steps

theorem funded_run (x : Execution N)
    (hcovered : ∀ before a after, x.actions = before ++ a :: after →
      RefundCovered { x with actions := before } a) (before : List (Action N)) :
    ∀ after, x.actions = before ++ after → Funded { x with actions := before } := by
  induction before using List.reverseRecOn with
  | nil =>
      intro _ _ token _
      exact directFunds_nonneg { x with actions := [] } token
  | append_singleton before a ih =>
      intro after hsplit
      rw [List.append_assoc] at hsplit
      exact funded_step { x with actions := before } a (hcovered before a after hsplit)
        (ih _ hsplit)

/-- The pools are backed throughout a run whose withdrawals are all covered by
tokens others sent; and where tokens can be paid out, in no other run. -/
theorem pools_backed_iff_covered (x : Execution N) :
    ((∀ before a after, x.actions = before ++ a :: after →
          RefundCovered { x with actions := before } a) →
        ∀ e ∈ x.history, PoolsBacked e.after) ∧
      ((∀ token, N.PaysOut token) → (∀ e ∈ x.history, PoolsBacked e.after) →
        ∀ before a after, x.actions = before ++ a :: after →
          RefundCovered { x with actions := before } a) := by
  have hfinal : ∀ (before : List (Action N)) (a : Action N),
      (entry step ({ x with actions := before } : Execution N).final a).after =
        (({ x with actions := before } : Execution N).andThen [a]).final :=
    fun before a => (Execution.final_andThen _ [a]).symm
  constructor
  · intro hcovered e he
    obtain ⟨before, after, hsplit, hbefore, hentry⟩ := Execution.exists_of_mem he
    have hfunded := funded_step _ _ (hcovered before e.input after hsplit)
      (funded_run x hcovered before _ hsplit)
    rw [hentry, hbefore, hfinal]
    exact hfunded.backed
  · intro hpays hbacked before a after hsplit
    generalize hy : ({ x with actions := before } : Execution N) = y at *
    have hmem : entry step y.final a ∈ x.history := by
      have hhistory : x.history = (y.andThen (a :: after)).history := by
        rw [← hy, Execution.andThen, ← hsplit]
      rw [hhistory, Execution.history_andThen]
      exact List.mem_append_right _ List.mem_cons_self
    have hheld := hbacked _ hmem
    rw [← hy, hfinal, hy, poolsBacked_iff] at hheld
    cases a with
    | market signatures op =>
        cases op with
        | emergencyWithdraw user pollId =>
            intro record token hdue htoken
            obtain ⟨oracleId, storage, oracle_found, deployed, refundable⟩ := hdue.refundable
            obtain ⟨w', hstep, -, hmarket, -⟩ := emergencyWithdraw_accepted (consistent_run y)
              (covered_run y htoken) (hpays token) hdue.signed htoken oracle_found deployed
              refundable hdue.staked hdue.unclaimed
            have hpaid : refundOf (entry step y.final
                (.market signatures (.emergencyWithdraw user pollId))) = record.amount := by
              rw [entry, hstep]
              rfl
            have hle := hheld token (by
              rw [Execution.final_andThen]
              exact token_kept (consistent_run y) (step_cases _ _) htoken)
            rw [refundsPaid_andThen, hpaid, directFunds_step] at hle
            exact hle.trans_eq (add_zero _)
        | _ => exact trivial
    | _ => exact trivial

section Sample

/-- 6 sends the market as many tokens as 5 stakes. -/
def giftedRun : Execution sampleNetwork :=
  sampleRun [.outside (payment ⟨3⟩ ⟨6⟩ ⟨0⟩ 20000000 (by decide)),
    .market allSign (.stake ⟨5⟩ 1 20000000 .yes), .market allSign (.stake ⟨6⟩ 1 30000000 .no),
    .market allSign (.cancelPoll ⟨1⟩ 1)]

theorem giftedRun_quiet : ∀ a ∈ giftedRun.actions, ∀ y, RefundCovered y a := by
  intro a ha
  simp only [giftedRun, sampleRun, sampleSetup, List.cons_append, List.nil_append, List.mem_cons,
    List.not_mem_nil, or_false] at ha
  rcases ha with rfl | rfl | rfl | rfl | rfl | rfl | rfl | rfl | rfl <;> exact fun _ => trivial

theorem pools_backed_iff_covered_sample :
    (∀ e ∈ (giftedRun.andThen [.market allSign (.emergencyWithdraw ⟨5⟩ 1)]).history,
        PoolsBacked e.after) ∧
      refundsPaid (giftedRun.andThen [.market allSign (.emergencyWithdraw ⟨5⟩ 1)]).history =
        20000000 := by
  refine ⟨(pools_backed_iff_covered _).1 ?_, by decide +kernel⟩
  intro before a after hsplit
  rcases split_concat hsplit with hquiet | ⟨rfl, rfl⟩
  · exact giftedRun_quiet a hquiet _
  · intro record token hdue htoken
    change refundsPaid giftedRun.history + record.amount ≤ directFunds giftedRun token
    have hstored : giftedRun.final.market.stakes.lookup (1, ⟨5⟩) =
        some ⟨⟨5⟩, 1, 20000000, .yes, false, 100⟩ := by
      decide +kernel
    have hconfigured : giftedRun.final.market.tokenAddress = some ⟨3⟩ := by decide +kernel
    cases hstored.symm.trans hdue.staked
    cases hconfigured.symm.trans htoken
    decide +kernel

end Sample

def refundedRun : Execution sampleNetwork :=
  cancelledRun.andThen [.market allSign (.emergencyWithdraw ⟨5⟩ 1)]

theorem refundedRun_not_backed : ¬ PoolsBacked refundedRun.final := by
  intro hbacked
  have hle := hbacked ⟨3⟩ (by decide +kernel)
  revert hle
  decide +kernel

end PredictX.PoolBacking
