import PredictX.Wealth

namespace PredictX.Recovery

open PredictX.Bookkeeping
open PredictX.EscrowRefinement
open PredictX.FiniteStore
open PredictX.HostCall
open PredictX.LabelledRuns
open PredictX.MarketStorage
open PredictX.Refunds
open PredictX.SharedTypes
open PredictX.Solvency
open PredictX.System
open PredictX.TokenContracts
open PredictX.VotingOracle
open PredictX.Wealth

variable {N : Network}

/-- The oracle's admin reports the polls cancelled, one after the other. -/
def cancellations (signatures : Signatures N) (oracleId : Address) (pollIds : List ℕ) :
    List (Action N) :=
  pollIds.map fun pollId => .oracle signatures oracleId (.setPollStatus pollId .cancelled)

theorem setPollStatus_accepted {w : World N} {signatures : Signatures N}
    {oracleId admin : Address} {storage : OracleStorage}
    (deployed : w.oracles.lookup oracleId = some storage)
    (admin_found : storage.admin = some admin)
    (signed : signatures.accepts oracleId admin = true) (pollId : ℕ) (status : PollStatus) :
    step w (.oracle signatures oracleId (.setPollStatus pollId status)) =
      (.ok .unit, { w with
        oracles := w.oracles.insert oracleId (storage.recorded pollId ⟨status, w.now⟩) }) := by
  have hcommit : ((OracleOp.setPollStatus pollId status).execute
      (callEnv oracleId signatures w.now) storage).commit storage =
        (.ok (), storage.recorded pollId ⟨status, w.now⟩) :=
    commit_eq_ok.mpr (setPollStatus_returns.mpr
      ⟨admin, admin_found, callEnv_authorises.trans signed, rfl⟩)
  simp only [step, deployed, hcommit]

theorem cancellations_accepted {signatures : Signatures N} {oracleId admin : Address}
    (signed : signatures.accepts oracleId admin = true) (pollIds : List ℕ) {w : World N}
    {storage : OracleStorage} (deployed : w.oracles.lookup oracleId = some storage)
    (admin_found : storage.admin = some admin) :
    (∀ e ∈ trace step w (cancellations signatures oracleId pollIds), e.output = .ok .unit) ∧
      (run step w (cancellations signatures oracleId pollIds)).market = w.market ∧
      ∃ storage', (run step w (cancellations signatures oracleId pollIds)).oracles.lookup oracleId =
          some storage' ∧
        ∀ pollId, storage'.pollStatusOf pollId =
          if pollId ∈ pollIds then .cancelled else storage.pollStatusOf pollId := by
  induction pollIds generalizing w storage with
  | nil => exact ⟨by simp [cancellations, trace], rfl, storage, deployed, by simp⟩
  | cons first rest ih =>
      have hstep := setPollStatus_accepted deployed admin_found signed first .cancelled
      have hrecorded : (step w (.oracle signatures oracleId
          (.setPollStatus first .cancelled))).2.oracles.lookup oracleId =
            some (storage.recorded first ⟨.cancelled, w.now⟩) := by
        rw [hstep]
        exact Finmap.lookup_insert w.oracles
      obtain ⟨houtputs, hmarket, storage', hstorage, hstatus⟩ := ih hrecorded admin_found
      refine ⟨List.forall_mem_cons.mpr ⟨congrArg Prod.fst hstep, houtputs⟩, ?_, storage',
        hstorage, ?_⟩
      · exact hmarket.trans (congrArg (·.2.market) hstep)
      · intro pollId
        rw [hstatus, pollStatusOf_recorded]
        by_cases hfirst : pollId = first <;> simp [hfirst]

theorem wealth_kept (x : Execution N) {token user : Address}
    (htoken : x.final.market.tokenAddress = some token) (other : user ≠ N.market)
    {later : List (Action N)} (hcalls : ∀ a ∈ later, ∀ activity, a ≠ .outside activity) :
    wealth token user (x.andThen later).final = wealth token user x.final := by
  have hall : ∀ e ∈ trace step x.final later, e.input ∈ later := fun _ he => input_mem he
  rw [Execution.final_andThen]
  refine (invariant_run (P := fun w : World N => w.market.tokenAddress = some token ∧
    wealth token user w = wealth token user x.final) (consistent_run x) ⟨htoken, rfl⟩ ?_ hall).1.2
  rintro w a reply w' hcons hstep hcall ⟨hconfigured, hsame⟩
  have honly : ∀ t, w.market.tokenAddress = some t → t = token := by
    intro t ht
    rw [hconfigured] at ht
    exact (Option.some.inj ht).symm
  have hnone : outsideChange token user ⟨w, a, reply, w'⟩ = 0 := by
    unfold outsideChange
    split
    · rename_i activity heq
      exact absurd heq (hcalls a hcall activity)
    · rfl
  refine ⟨token_kept hcons hstep hconfigured, ?_⟩
  rw [wealth_step hcons hstep honly other, hnone, add_zero, hsame]

theorem unclaimedAmount_claimed {m : Market}
    (hall : ∀ k ∈ m.stakes, m.hasEmergencyClaimed k.1 k.2 = true) {k : ℕ × Address}
    {record : Stake} (h : m.stakes.lookup k = some record) : unclaimedAmount m k record = 0 :=
  if_pos (hall k (Finmap.mem_of_lookup_eq_some h))

theorem wealth_cashed {w : World N}
    (hall : ∀ k ∈ w.market.stakes, w.market.hasEmergencyClaimed k.1 k.2 = true)
    (token user : Address) : wealth token user w = N.balance w.tokens token user := by
  have hnone : total (ownUnclaimed user w.market) w.market.stakes = 0 := by
    apply total_eq_zero
    intro k record hrecord
    rw [ownUnclaimed, unclaimedAmount_claimed hall hrecord, ite_self]
  rw [wealth, hnone, add_zero]

theorem exists_due (m : Market) : ∃ due : List (ℕ × Address), due.Nodup ∧
    ∀ k, k ∈ due ↔ k ∈ m.stakes ∧ m.hasEmergencyClaimed k.1 k.2 = false := by
  refine ⟨(m.stakes.keys.filter fun k => m.hasEmergencyClaimed k.1 k.2 = false).toList,
    Finset.nodup_toList _, ?_⟩
  intro k
  rw [Finset.mem_toList, Finset.mem_filter, Finmap.mem_keys]

/-- From every reachable state whose oracle has an admin, that admin and the
stakers can settle up: it cancels the polls at the oracle and they withdraw,
every call is accepted, nothing stays locked, the market keeps what others
sent to it, and everybody holds what it owned. -/
theorem recoverable (x : Execution N) {oracleId admin : Address} {storage : OracleStorage}
    (adminSignatures : Signatures N) (userSignatures : ℕ × Address → Signatures N)
    (pays : ∀ token, x.final.market.tokenAddress = some token → N.PaysOut token)
    (oracle_found : x.final.market.votingOracle = some oracleId)
    (deployed : x.final.oracles.lookup oracleId = some storage)
    (admin_found : storage.admin = some admin)
    (admin_signs : adminSignatures.accepts oracleId admin = true)
    (users_sign : ∀ k ∈ x.final.market.stakes, (userSignatures k).accepts N.market k.2 = true) :
    ∃ pollIds due, ∀ later,
      later = cancellations adminSignatures oracleId pollIds ++ refundCalls userSignatures due →
      (∀ e ∈ trace step x.final later, ∃ value, e.output = .ok value) ∧
        (x.andThen later).final.market.stats.totalValueLocked = 0 ∧
        ∀ token, x.final.market.tokenAddress = some token →
          marketBalance (x.andThen later).final token = directFunds x token ∧
            ∀ user, user ≠ N.market →
              N.balance (x.andThen later).final.tokens token user = wealth token user x.final := by
  obtain ⟨due, hnodup, hdue⟩ := exists_due x.final.market
  refine ⟨due.map Prod.fst, due, ?_⟩
  intro later hlater
  obtain ⟨hcancelled, hmarket, storage', hstorage, hstatus⟩ :=
    cancellations_accepted admin_signs (due.map Prod.fst) deployed admin_found
  rw [← Execution.final_andThen] at hmarket hstorage
  -- The refunds start where every poll with a stake to pay back is cancelled.
  have hrefunds : ∀ k ∈ due, RefundDue
      (x.andThen (cancellations adminSignatures oracleId (due.map Prod.fst))).final storage'
      (userSignatures k) k := by
    intro k hk
    obtain ⟨hstaked, hunclaimed⟩ := (hdue k).mp hk
    refine ⟨users_sign k hstaked, ?_, ?_, ?_⟩
    · rw [hstatus, if_pos (List.mem_map_of_mem hk)]
    · rw [hmarket]
      exact hstaked
    · rw [hmarket]
      exact hunclaimed
  obtain ⟨houtputs, hstakes, htokens, hclaims, -⟩ := refundCalls_accepted due _
    (by rw [hmarket]; exact pays) (by rw [hmarket]; exact oracle_found) hstorage hrefunds hnodup
  have hsplit : (x.andThen (cancellations adminSignatures oracleId (due.map Prod.fst))).andThen
      (refundCalls userSignatures due) = x.andThen later := by
    simp [Execution.andThen, hlater]
  rw [hsplit, hmarket] at hstakes htokens hclaims
  have hall : ∀ k ∈ (x.andThen later).final.market.stakes,
      (x.andThen later).final.market.hasEmergencyClaimed k.1 k.2 = true := by
    intro k hk
    rw [hstakes] at hk
    rw [hclaims]
    cases hclaimed : x.final.market.hasEmergencyClaimed k.1 k.2 with
    | false => simp [(hdue k).mpr ⟨hk, hclaimed⟩]
    | true => rfl
  have hlocked := total_eq_zero fun k record h => unclaimedAmount_claimed hall h
  have hcalls : ∀ a ∈ later, ∀ activity, a ≠ .outside activity := by
    rw [hlater]
    intro a ha activity
    rcases List.mem_append.mp ha with ha | ha
    · obtain ⟨pollId, -, rfl⟩ := List.mem_map.mp ha
      simp
    · obtain ⟨k, -, rfl⟩ := List.mem_map.mp ha
      simp
  refine ⟨?_, ?_, ?_⟩
  · intro e he
    rw [hlater, trace_append] at he
    rcases List.mem_append.mp he with he | he
    · exact ⟨_, hcancelled e he⟩
    · rw [← Execution.final_andThen] at he
      have hmem := List.mem_map_of_mem (f := (·.output)) he
      rw [houtputs] at hmem
      obtain ⟨k, -, hk⟩ := List.mem_map.mp hmem
      exact ⟨_, hk.symm⟩
  · rw [(consistent_run _).locked, hlocked]
  · intro token htoken
    constructor
    · rw [balance_run _ (htokens.trans htoken), hlocked, zero_add,
        directFunds_andThen x token hcalls]
    · intro user other
      rw [← wealth_cashed hall token user, wealth_kept x htoken other hcalls]

/-- Two stakes on an open poll of a paused market. -/
def stalledRun : Execution sampleNetwork :=
  sampleRun
    [.market allSign (.stake ⟨5⟩ 1 20000000 .yes), .market allSign (.stake ⟨6⟩ 1 30000000 .no),
      .market allSign (.pause ⟨1⟩)]

theorem recoverable_sample : ∃ later,
    (stalledRun.andThen later).final.market.stats.totalValueLocked = 0 ∧
      sampleNetwork.balance (stalledRun.andThen later).final.tokens ⟨3⟩ ⟨5⟩ =
        wealth ⟨3⟩ ⟨5⟩ stalledRun.final := by
  obtain ⟨storage, hstorage⟩ := Finmap.mem_iff.mp
    (show (⟨2⟩ : Address) ∈ stalledRun.final.oracles by decide +kernel)
  have hadmin : (stalledRun.final.oracles.lookup ⟨2⟩).map (·.admin) = some (some ⟨1⟩) := by
    decide +kernel
  rw [hstorage, Option.map_some, Option.some.injEq] at hadmin
  have hsigned : ∀ k ∈ stalledRun.final.market.stakes.keys,
      allSign.accepts sampleNetwork.market k.2 = true := by
    decide +kernel
  obtain ⟨pollIds, due, hsettled⟩ := recoverable stalledRun allSign (fun _ => allSign)
    (fun token _ => storeNetwork_paysOut ⟨0⟩ token) (by decide +kernel) hstorage hadmin rfl
    (fun k hk => hsigned k (Finmap.mem_keys.mpr hk))
  obtain ⟨-, hzero, hbalances⟩ := hsettled _ rfl
  exact ⟨_, hzero, (hbalances ⟨3⟩ (by decide +kernel)).2 ⟨5⟩ (by decide)⟩

end PredictX.Recovery
