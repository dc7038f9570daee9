import PredictX.OracleLifecycle
import PredictX.Refunds

namespace PredictX.EmergencyWindow

open PredictX.Bookkeeping
open PredictX.CommittedCalls
open PredictX.FiniteStore
open PredictX.HostCall
open PredictX.LabelledRuns
open PredictX.MarketStorage
open PredictX.OracleLifecycle
open PredictX.PredictionMarket
open PredictX.Refunds
open PredictX.SharedTypes
open PredictX.System
open PredictX.TokenContracts
open PredictX.VotingOracle

variable {N : Network}

section Cancellation

/-- The transaction, if it is accepted, neither sets the poll's status at the
configured oracle nor moves the market to one that does not report the poll as
cancelled. -/
def KeepsCancellation (pollId : ℕ) (e : Transaction N) : Prop :=
  (∃ value, e.output = .ok value) →
    match e.input with
    | .oracle _ oracleId (.setPollStatus pollId' _) =>
        e.before.market.votingOracle = some oracleId → pollId' ≠ pollId
    | .market _ (.setOracle oracleId) =>
        ∃ storage, e.before.oracles.lookup oracleId = some storage ∧
          storage.pollStatusOf pollId = .cancelled
    | _ => True

theorem cancelPoll_reports {w w' : World N} {signatures : Signatures N} {admin : Address}
    {pollId : ℕ} {value : Value}
    (hstep : Step w (.market signatures (.cancelPoll admin pollId)) (.ok value) w') :
    Configured w' (fun s => s.pollStatusOf pollId = .cancelled) := by
  cases hstep with
  | rejected failed => exact absurd rfl (failed value)
  | market committed =>
      cases committed with
      | cancelPoll _ _ _ oracle_found =>
          exact ⟨_, _, oracle_found, Finmap.lookup_insert _,
            (pollStatusOf_recorded _ _ _).trans (if_pos rfl)⟩

theorem cancellation_step {w w' : World N} {a : Action N} {reply : Reply PredictXError Value}
    {pollId : ℕ} (hcons : Consistent N.market w.market) (hstep : Step w a reply w')
    (hkeeps : KeepsCancellation pollId ⟨w, a, reply, w'⟩)
    (h : Configured w (fun s => s.pollStatusOf pollId = .cancelled)) :
    Configured w' (fun s => s.pollStatusOf pollId = .cancelled) := by
  by_cases hok : ∃ value, reply = .ok value
  · refine configured_step hcons hstep h ?_ ?_
    · intro oracleId s s' hfound hchange hstatus
      cases hchange with
      | same => exact hstatus
      | adopted => exact hstatus
      | recorded call =>
          subst call
          rw [pollStatusOf_recorded, if_neg (hkeeps hok hfound).symm, hstatus]
      | cancelled call =>
          rw [pollStatusOf_recorded, hstatus]
          simp
    · rintro signatures oracleId value rfl -
      exact hkeeps hok
  · rw [hstep.unchanged hok]
    exact h

/-- After a cancellation, and as long as the poll's status is not set again
and the market is moved to no oracle that does not report it as cancelled,
every staker who was not paid back can withdraw the stake. -/
theorem cancellation_stays_refundable (x : Execution N) {earlier later : List (Transaction N)}
    {e : Transaction N} {signatures userSigns : Signatures N} {admin user : Address} {pollId : ℕ}
    {value : Value} {record : Stake} (hsplit : x.history = earlier ++ e :: later)
    (hcall : e.input = .market signatures (.cancelPoll admin pollId))
    (hok : e.output = .ok value) (hlater : ∀ e' ∈ later, KeepsCancellation pollId e')
    (pays : ∀ token, x.final.market.tokenAddress = some token → N.PaysOut token)
    (signed : userSigns.accepts N.market user = true)
    (staked : x.final.market.stakes.lookup (pollId, user) = some record)
    (unclaimed : x.final.market.hasEmergencyClaimed pollId user = false) :
    ∃ w' token, step x.final (.market userSigns (.emergencyWithdraw user pollId)) =
        (.ok (.amount record.amount), w') ∧
      x.final.market.tokenAddress = some token ∧
      N.balance w'.tokens token user = N.balance x.final.tokens token user + record.amount := by
  have he : e ∈ x.history := by simp [hsplit]
  have hcons := consistent_run x
  have hstep := Execution.step_of_mem he
  rw [hcall, hok] at hstep
  obtain ⟨⟨oracleId, storage, horacle, hstorage, hcancelled⟩, -⟩ :=
    invariant_after hsplit (cancelPoll_reports hstep) cancellation_step hlater
  obtain ⟨token, htoken⟩ := token_of_stake hcons staked
  obtain ⟨w', haccepted, -, -, htransfer⟩ := emergencyWithdraw_accepted hcons
    (covered_run x htoken) (pays token htoken) signed htoken horacle hstorage (.inl hcancelled)
    staked unclaimed
  have not_self := (hcons.record pollId user record staked).not_self
  exact ⟨w', token, haccepted, htoken, N.balance_dst htransfer not_self.symm⟩

/-- The oracle 7 reports poll 1 as cancelled, too. -/
def secondOracle : List (Action sampleNetwork) :=
  [.deployOracle ⟨7⟩, .oracle allSign ⟨7⟩ (.initializeOracle ⟨1⟩),
    .oracle allSign ⟨7⟩ (.setPollStatus 1 .cancelled),
    .market allSign (.stake ⟨5⟩ 1 20000000 .yes)]

/-- The market is moved to it, and paused. -/
def movedRun : Execution sampleNetwork :=
  (sampleRun secondOracle).andThen
    [.market allSign (.cancelPoll ⟨1⟩ 1), .market allSign (.setOracle ⟨7⟩),
      .market allSign (.pause ⟨1⟩)]

theorem cancellation_stays_refundable_sample :
    movedRun.final.market.votingOracle = some ⟨7⟩ ∧
      ∃ w', step movedRun.final (.market allSign (.emergencyWithdraw ⟨5⟩ 1)) =
        (.ok (.amount 20000000), w') := by
  have hok : (step (sampleRun secondOracle).final
      (.market allSign (.cancelPoll ⟨1⟩ 1))).1 = .ok .unit := by
    decide +kernel
  have hstaked : movedRun.final.market.stakes.lookup (1, ⟨5⟩) =
      some ⟨⟨5⟩, 1, 20000000, .yes, false, 100⟩ := by
    decide +kernel
  have hlater : ∀ e ∈ trace step
      (step (sampleRun secondOracle).final (.market allSign (.cancelPoll ⟨1⟩ 1))).2
      [.market allSign (.setOracle ⟨7⟩), .market allSign (.pause ⟨1⟩)],
      KeepsCancellation 1 e := by
    refine List.forall_mem_cons.mpr ⟨fun _ => ?_, ?_⟩
    · exact ⟨(⟨some ⟨1⟩, ∅⟩ : OracleStorage).recorded 1 ⟨.cancelled, 100⟩, rfl, rfl⟩
    · exact List.forall_mem_singleton.mpr fun _ => trivial
  obtain ⟨w', _, hstep, -⟩ := cancellation_stays_refundable movedRun
    (Execution.history_andThen _ _) rfl hok hlater (fun token _ => cancelledRun_pays token)
    (show allSign.accepts ⟨0⟩ ⟨5⟩ = true by decide) hstaked (by decide +kernel)
  exact ⟨by decide +kernel, w', hstep⟩

/-- The admin moves the market to another oracle after the cancellation. -/
def replacedOracleRun : Execution sampleNetwork :=
  (sampleRun [.deployOracle ⟨7⟩, .market allSign (.stake ⟨5⟩ 1 20000000 .yes)]).andThen
    [.market allSign (.cancelPoll ⟨1⟩ 1), .market allSign (.setOracle ⟨7⟩)]

theorem replacedOracleRun_not_refundable :
    (step (sampleRun [.deployOracle ⟨7⟩, .market allSign (.stake ⟨5⟩ 1 20000000 .yes)]).final
        (.market allSign (.cancelPoll ⟨1⟩ 1))).1 = .ok .unit ∧
      (1, ⟨5⟩) ∈ replacedOracleRun.final.market.stakes ∧
      replacedOracleRun.final.market.hasEmergencyClaimed 1 ⟨5⟩ = false ∧
      (step replacedOracleRun.final (.market allSign (.emergencyWithdraw ⟨5⟩ 1))).1 =
        .error .emergencyWithdrawNotAllowed := by
  decide +kernel

end Cancellation

section Window

def statusWrite (oracleId : Address) (pollId : ℕ) (e : Transaction N) :
    Option StoredPollStatus :=
  match e.input, e.output with
  | .oracle _ oracleId' (.setPollStatus pollId' status), .ok _ =>
      if oracleId' = oracleId ∧ pollId' = pollId then some ⟨status, e.before.now⟩ else none
  | .market _ (.cancelPoll _ pollId'), .ok _ =>
      if e.before.market.votingOracle = some oracleId ∧ pollId' = pollId then
        some ⟨.cancelled, e.before.now⟩
      else none
  | _, _ => none

def recordOf (oracleId : Address) (pollId : ℕ) (w : World N) : Option StoredPollStatus :=
  (w.oracles.lookup oracleId).bind (·.pollStatus.lookup pollId)

theorem recordOf_recorded {w : World N} {oracleId oracleId' : Address} {pollId pollId' : ℕ}
    {storage : OracleStorage} {entry : StoredPollStatus}
    (h : w.oracles.lookup oracleId' = some storage) :
    ((w.oracles.insert oracleId' (storage.recorded pollId' entry)).lookup oracleId).bind
        (·.pollStatus.lookup pollId) =
      (if oracleId' = oracleId ∧ pollId' = pollId then some entry else none).or
        (recordOf oracleId pollId w) := by
  rw [lookup_insert_eq]
  by_cases horacle : oracleId = oracleId'
  · subst horacle
    by_cases hpoll : pollId = pollId'
    · simp [OracleStorage.recorded, lookup_insert_eq, hpoll]
    · simp [OracleStorage.recorded, hpoll, Ne.symm hpoll, recordOf, h]
  · simp [horacle, Ne.symm horacle, recordOf]

theorem statusWrite_rejected {w w' : World N} {a : Action N} {reply : Reply PredictXError Value}
    {oracleId : Address} {pollId : ℕ} (h : ∀ value, reply ≠ .ok value) :
    statusWrite oracleId pollId ⟨w, a, reply, w'⟩ = none := by
  unfold statusWrite
  split
  · rename_i hreply
    exact absurd hreply (h _)
  · rename_i hreply
    exact absurd hreply (h _)
  · rfl

theorem recordOf_step {w w' : World N} {a : Action N} {reply : Reply PredictXError Value}
    (hstep : Step w a reply w') (oracleId : Address) (pollId : ℕ) :
    recordOf oracleId pollId w' =
      (statusWrite oracleId pollId ⟨w, a, reply, w'⟩).or (recordOf oracleId pollId w) := by
  cases hstep with
  | rejected failed =>
      rw [statusWrite_rejected failed]
      rfl
  | initializeOracle deployed =>
      change ((w.oracles.insert _ _).lookup oracleId).bind _ = _
      rw [lookup_insert_eq]
      split
      · rename_i heq
        subst heq
        simp [recordOf, deployed, statusWrite]
      · rfl
  | setPollStatus deployed => exact recordOf_recorded deployed
  | deployOracle _ fresh =>
      change ((w.oracles.insert _ _).lookup oracleId).bind _ = _
      rw [lookup_insert_eq]
      split
      · rename_i heq
        subst heq
        simp [recordOf, fresh, statusWrite, OracleStorage.deployed]
      · rfl
  | market committed =>
      cases committed with
      | cancelPoll _ _ _ oracle_found deployed =>
          change ((w.oracles.insert _ _).lookup oracleId).bind _ = _
          rw [recordOf_recorded deployed, statusWrite]
          simp [oracle_found, callEnv]
      | _ => rfl
  | _ => rfl

theorem recordOf_run (x : Execution N) (oracleId : Address) (pollId : ℕ) :
    recordOf oracleId pollId x.final =
      (x.history.filterMap (statusWrite oracleId pollId)).getLast? :=
  run_last_write rfl (fun w a => recordOf_step (step_cases w a) oracleId pollId) x.actions

theorem statusWrite_stamp {oracleId : Address} {pollId : ℕ} {e : Transaction N}
    {written : StoredPollStatus} (h : statusWrite oracleId pollId e = some written) :
    written.updatedAt = e.before.now := by
  unfold statusWrite at h
  split at h
  · split at h
    · cases h
      rfl
    · simp at h
  · split at h
    · cases h
      rfl
    · simp at h
  · simp at h

theorem statusWrite_le_last (x : Execution N) {oracleId : Address} {pollId : ℕ}
    {last : StoredPollStatus}
    (hlast : (x.history.filterMap (statusWrite oracleId pollId)).getLast? = some last) :
    ∀ written ∈ x.history.filterMap (statusWrite oracleId pollId),
      written.updatedAt ≤ last.updatedAt :=
  stamp_le_last World.now (fun w a => (step_cases w a).now_le)
    (fun _ _ _ h => statusWrite_stamp h) x.actions hlast

def RecordRefundable (record : StoredPollStatus) (now : ℕ) : Prop :=
  record.status = .cancelled ∨
    (record.status = .locked ∨ record.status = .disputed) ∧
      0 < record.updatedAt ∧ record.updatedAt + emergencyTimeoutSecs ≤ now

theorem refundable_iff_record {s : OracleStorage} {pollId now : ℕ} :
    Refundable s pollId now ↔
      ∃ record, s.pollStatus.lookup pollId = some record ∧ RecordRefundable record now := by
  unfold Refundable OracleStorage.pollStatusOf OracleStorage.updatedAtOf RecordRefundable
  cases s.pollStatus.lookup pollId with
  | none => simp
  | some record =>
      have htime : record.updatedAt ≠ 0 ∧ emergencyTimeoutSecs ≤ now - record.updatedAt ↔
          0 < record.updatedAt ∧ record.updatedAt + emergencyTimeoutSecs ≤ now := by
        unfold emergencyTimeoutSecs
        omega
      simp only [Option.map_some, Option.getD_some, Option.some.injEq, exists_eq_left', htime,
        or_comm (a := record.status = .disputed)]

theorem refundable_later {s : OracleStorage} {pollId now now' : ℕ} (hle : now ≤ now')
    (h : Refundable s pollId now) : Refundable s pollId now' := by
  rcases h with hcancelled | ⟨hstatus, hset, htime⟩
  · exact .inl hcancelled
  · exact .inr ⟨hstatus, hset, by omega⟩

/-- The transaction, if it is accepted, neither sets the poll's status at the
configured oracle nor replaces that oracle. -/
def LeavesRecord (pollId : ℕ) (e : Transaction N) : Prop :=
  (∃ value, e.output = .ok value) →
    match e.input with
    | .oracle _ oracleId (.setPollStatus pollId' _) =>
        e.before.market.votingOracle = some oracleId → pollId' ≠ pollId
    | .market _ (.setOracle oracleId) => e.before.market.votingOracle = some oracleId
    | _ => True

theorem refundable_step {w w' : World N} {a : Action N} {reply : Reply PredictXError Value}
    {pollId : ℕ} (hcons : Consistent N.market w.market) (hstep : Step w a reply w')
    (hleaves : LeavesRecord pollId ⟨w, a, reply, w'⟩)
    (h : Configured w (fun s => Refundable s pollId w.now)) :
    Configured w' (fun s => Refundable s pollId w'.now) := by
  by_cases hok : ∃ value, reply = .ok value
  · refine configured_step hcons hstep h ?_ ?_
    · intro oracleId s s' hfound hchange hrefundable
      have hlater := refundable_later hstep.now_le hrefundable
      cases hchange with
      | same => exact hlater
      | adopted => exact hlater
      | recorded call =>
          subst call
          have hother := (hleaves hok hfound).symm
          simpa [Refundable, pollStatusOf_recorded, updatedAtOf_recorded, hother] using hlater
      | @cancelled _ pollId' =>
          by_cases hpoll : pollId = pollId'
          · exact .inl (by simp [pollStatusOf_recorded, hpoll])
          · simpa [Refundable, pollStatusOf_recorded, updatedAtOf_recorded, hpoll] using hlater
    · rintro signatures oracleId value rfl -
      obtain ⟨oracleId', storage, hfound, hstorage, hrefundable⟩ := h
      have hsame : w.market.votingOracle = some oracleId := hleaves hok
      cases hfound.symm.trans hsame
      exact ⟨storage, hstorage, refundable_later hstep.now_le hrefundable⟩
  · rw [hstep.unchanged hok]
    exact h

/-- A withdrawal goes through only when the last status written for the poll
at the configured oracle is a cancellation, or a lock or a dispute with no
write at all in the last seven days.  Once the view answers yes it keeps doing
so until the record is written again or the oracle replaced. -/
theorem emergency_window (x : Execution N) (pollId : ℕ) :
    (∀ signatures user value,
      (step x.final (.market signatures (.emergencyWithdraw user pollId))).1 = .ok value →
        ∃ oracleId last, x.final.market.votingOracle = some oracleId ∧
          (x.history.filterMap (statusWrite oracleId pollId)).getLast? = some last ∧
          (last.status = .cancelled ∨
            (last.status = .locked ∨ last.status = .disputed) ∧ 0 < last.updatedAt ∧
              last.updatedAt + 604800 ≤ x.final.now ∧
              ∀ written ∈ x.history.filterMap (statusWrite oracleId pollId),
                written.updatedAt + 604800 ≤ x.final.now)) ∧
      (query x.final (checkEmergencyEligible pollId) = .ok true →
        ∀ later, (∀ e ∈ trace step x.final later, LeavesRecord pollId e) →
          query (x.andThen later).final (checkEmergencyEligible pollId) = .ok true) := by
  refine ⟨?_, ?_⟩
  · intro signatures user value hok
    obtain ⟨_, hcommitted⟩ := committed_of_ok hok
    cases hcommitted with
    | @emergencyWithdraw _ oracleId _ _ storage _ _ _ _ oracle_found deployed refundable =>
        obtain ⟨last, hrecord, hrefundable⟩ := refundable_iff_record.mp refundable
        have hlast : (x.history.filterMap (statusWrite oracleId pollId)).getLast? =
            some last := by
          rw [← recordOf_run, recordOf, deployed]
          exact hrecord
        refine ⟨oracleId, last, oracle_found, hlast, ?_⟩
        rcases hrefundable with hcancelled | ⟨hstatus, hset, htime⟩
        · exact .inl hcancelled
        · refine .inr ⟨hstatus, hset, htime, ?_⟩
          intro written hwritten
          have hle := statusWrite_le_last x hlast written hwritten
          exact (Nat.add_le_add_right hle _).trans htime
  · intro heligible later hleaves
    rw [query_checkEmergencyEligible] at heligible ⊢
    rw [Execution.final_andThen]
    exact (invariant_run (consistent_run x) heligible refundable_step hleaves).1

/-- The oracle locks the poll after a stake on it, and nobody looks after it. -/
def forsakenRun : Execution sampleNetwork :=
  sampleRun
    [.market allSign (.stake ⟨5⟩ 1 20000000 .yes), .elapse 900,
      .oracle allSign ⟨2⟩ (.setPollStatus 1 .locked)]

/-- Another oracle calls the poll active, but the admin does not sign for it. -/
def foreignCalls : List (Action sampleNetwork) :=
  [.deployOracle ⟨7⟩, .oracle allSign ⟨7⟩ (.initializeOracle ⟨1⟩),
    .oracle allSign ⟨7⟩ (.setPollStatus 1 .active),
    .market (unsigned sampleNetwork) (.setOracle ⟨7⟩), .elapse 100]

theorem emergency_window_sample :
    (∃ oracleId last,
        (forsakenRun.andThen [.elapse 604800]).final.market.votingOracle = some oracleId ∧
        ((forsakenRun.andThen [.elapse 604800]).history.filterMap
          (statusWrite oracleId 1)).getLast? = some last) ∧
      query ((forsakenRun.andThen [.elapse 604800]).andThen foreignCalls).final
        (checkEmergencyEligible 1) = .ok true := by
  have hwindow := emergency_window (forsakenRun.andThen [.elapse 604800]) 1
  have haccepted : (step (forsakenRun.andThen [.elapse 604800]).final
      (.market allSign (.emergencyWithdraw ⟨5⟩ 1))).1 = .ok (.amount 20000000) := by
    decide +kernel
  refine ⟨?_, hwindow.2 (by decide +kernel) foreignCalls ?_⟩
  · obtain ⟨oracleId, last, hfound, hlast, -⟩ := hwindow.1 allSign ⟨5⟩ _ haccepted
    exact ⟨oracleId, last, hfound, hlast⟩
  refine List.forall_mem_cons.mpr ⟨fun _ => trivial, ?_⟩
  refine List.forall_mem_cons.mpr ⟨fun _ => trivial, ?_⟩
  refine List.forall_mem_cons.mpr ⟨fun _ hfound => absurd hfound (by decide +kernel), ?_⟩
  refine List.forall_mem_cons.mpr ⟨?_, List.forall_mem_singleton.mpr fun _ => trivial⟩
  rintro ⟨value, hvalue⟩
  have hrefused : Reply.trap none = Reply.ok value := hvalue
  cases hrefused

end Window

end PredictX.EmergencyWindow
