import PredictX.EmergencyWindow

namespace PredictX.UnattendedPolls

open PredictX.Bookkeeping
open PredictX.EmergencyWindow
open PredictX.HostCall
open PredictX.LabelledRuns
open PredictX.MarketStorage
open PredictX.OracleLifecycle
open PredictX.PredictionMarket
open PredictX.Refunds
open PredictX.SharedTypes
open PredictX.System
open PredictX.TokenContracts
open PredictX.VotingOracle

variable {N : Network}

/-- The transaction gives the poll no status at the oracle, and the market no
other oracle. -/
structure Unattended (oracleId : Address) (pollId : ℕ) (e : Transaction N) : Prop where
  unwritten : statusWrite oracleId pollId e = none
  unreplaced : ∀ signatures oracleId' value, e.input = .market signatures (.setOracle oracleId') →
    e.output = .ok value → oracleId' = oracleId

/-- The market uses the oracle, which has this record of the poll, or none. -/
structure Recorded (oracleId : Address) (pollId : ℕ) (record : Option StoredPollStatus)
    (w : World N) : Prop where
  configured : w.market.votingOracle = some oracleId
  found : recordOf oracleId pollId w = record

theorem recorded_step {w w' : World N} {a : Action N} {reply : Reply PredictXError Value}
    {oracleId : Address} {pollId : ℕ} {record : Option StoredPollStatus}
    (hcons : Consistent N.market w.market) (hstep : Step w a reply w')
    (hleft : Unattended oracleId pollId ⟨w, a, reply, w'⟩)
    (h : Recorded oracleId pollId record w) : Recorded oracleId pollId record w' := by
  constructor
  · rcases votingOracle_step hcons hstep with hsame | ⟨new, value, hnew, -, hok, hcall⟩
    · exact hsame.trans h.configured
    · rcases hcall with ⟨hnone, -⟩ | ⟨signatures, hcall⟩
      · exact absurd (hnone.symm.trans h.configured) (by simp)
      · rw [hnew, hleft.unreplaced signatures new value hcall hok]
  · rw [recordOf_step hstep, hleft.unwritten, Option.none_or, h.found]

theorem recorded_later (x : Execution N) {oracleId : Address} {pollId : ℕ}
    {record : Option StoredPollStatus} (h : Recorded oracleId pollId record x.final)
    {later : List (Action N)}
    (hleft : ∀ e ∈ trace step x.final later, Unattended oracleId pollId e) :
    Recorded oracleId pollId record (x.andThen later).final := by
  rw [Execution.final_andThen]
  exact (invariant_run (consistent_run x) h recorded_step hleft).1

/-- After whatever happens without the admins deciding about the poll again, a
user who signs gets the stake back exactly if it was not paid back yet and the
record that the oracle has now makes the poll refundable by then: at any time
for a cancelled poll, from seven days after the record on for a locked or a
disputed one, and never for any other or without a record. -/
theorem unattended_refunds (x : Execution N) {oracleId : Address} {storage : OracleStorage}
    (oracle_found : x.final.market.votingOracle = some oracleId)
    (deployed : x.final.oracles.lookup oracleId = some storage) (pollId : ℕ)
    {later : List (Action N)}
    (hleft : ∀ e ∈ trace step x.final later, Unattended oracleId pollId e)
    (signatures : Signatures N) (user : Address)
    (signed : signatures.accepts N.market user = true)
    (pays : ∀ token, (x.andThen later).final.market.tokenAddress = some token → N.PaysOut token) :
    (∃ value, (step (x.andThen later).final
        (.market signatures (.emergencyWithdraw user pollId))).1 = .ok value) ↔
      (pollId, user) ∈ (x.andThen later).final.market.stakes ∧
        (x.andThen later).final.market.hasEmergencyClaimed pollId user = false ∧
        ∃ record, storage.pollStatus.lookup pollId = some record ∧
          RecordRefundable record (x.andThen later).final.now := by
  have hfound : recordOf oracleId pollId x.final = storage.pollStatus.lookup pollId := by
    rw [recordOf, deployed, Option.bind_some]
  obtain ⟨hconfigured, hrecord⟩ := recorded_later x ⟨oracle_found, hfound⟩ hleft
  have hcons := consistent_run (x.andThen later)
  constructor
  · rintro ⟨value, hok⟩
    obtain ⟨_, hcommitted⟩ := committed_of_ok hok
    cases hcommitted with
    | emergencyWithdraw authorised unclaimed oracle_found' deployed' refundable staked =>
        cases hconfigured.symm.trans oracle_found'
        rw [recordOf, deployed', Option.bind_some] at hrecord
        rw [← hrecord]
        exact ⟨Finmap.mem_of_lookup_eq_some staked, unclaimed, refundable_iff_record.mp refundable⟩
  · rintro ⟨hstaked, hunclaimed, record, hstored, hrefundable⟩
    obtain ⟨stake, hstake⟩ := Finmap.mem_iff.mp hstaked
    obtain ⟨token, htoken⟩ := token_of_stake hcons hstake
    rw [← hrecord, recordOf] at hstored
    obtain ⟨storage', hdeployed, hlookup⟩ := Option.bind_eq_some_iff.mp hstored
    obtain ⟨w', hstep, -⟩ := emergencyWithdraw_accepted hcons
      (covered_run (x.andThen later) htoken) (pays token htoken) signed htoken hconfigured
      hdeployed (refundable_iff_record.mpr ⟨record, hlookup, hrefundable⟩) hstake hunclaimed
    exact ⟨_, congrArg Prod.fst hstep⟩

theorem unattended_refunds_sample :
    ∃ value, (step (forsakenRun.andThen (foreignCalls ++ [.elapse 604800])).final
      (.market allSign (.emergencyWithdraw ⟨5⟩ 1))).1 = .ok value := by
  have hfound : forsakenRun.final.market.votingOracle = some ⟨2⟩ := by decide +kernel
  have hdeployed : forsakenRun.final.oracles.lookup ⟨2⟩ =
      some ((⟨some ⟨1⟩, ∅⟩ : OracleStorage).recorded 1 ⟨.locked, 1000⟩) := rfl
  have hleft : ∀ e ∈ trace step forsakenRun.final (foreignCalls ++ [.elapse 604800]),
      Unattended ⟨2⟩ 1 e := by
    refine List.forall_mem_cons.mpr ⟨⟨rfl, by rintro _ _ _ ⟨⟩⟩, ?_⟩
    refine List.forall_mem_cons.mpr ⟨⟨rfl, by rintro _ _ _ ⟨⟩⟩, ?_⟩
    refine List.forall_mem_cons.mpr ⟨⟨by decide +kernel, by rintro _ _ _ ⟨⟩⟩, ?_⟩
    refine List.forall_mem_cons.mpr ⟨⟨rfl, ?_⟩, ?_⟩
    · rintro _ _ value - hvalue
      have hrefused : Reply.trap none = Reply.ok value := hvalue
      cases hrefused
    refine List.forall_mem_cons.mpr ⟨⟨rfl, by rintro _ _ _ ⟨⟩⟩, ?_⟩
    exact List.forall_mem_singleton.mpr ⟨rfl, by rintro _ _ _ ⟨⟩⟩
  refine (unattended_refunds forsakenRun hfound hdeployed 1 hleft allSign ⟨5⟩ (by decide)
    (fun token _ => cancelledRun_pays token)).mpr ⟨?_, ?_, ⟨.locked, 1000⟩, rfl, ?_⟩
  · decide +kernel
  · decide +kernel
  · exact .inr ⟨.inl rfl, by decide, by decide +kernel⟩

end PredictX.UnattendedPolls
