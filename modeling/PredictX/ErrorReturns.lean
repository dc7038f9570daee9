import PredictX.Bookkeeping
import PredictX.Footprints

namespace PredictX.ErrorReturns

open PredictX.Bookkeeping
open PredictX.CommittedCalls
open PredictX.FiniteStore
open PredictX.Footprints
open PredictX.HostCall
open PredictX.HostCall.Call
open PredictX.MarketStorage
open PredictX.Matches
open PredictX.PredictionMarket
open PredictX.SharedTypes
open PredictX.SorobanHost
open PredictX.Staking
open PredictX.System
open PredictX.TokenContracts
open PredictX.TokenUtils
open PredictX.VotingOracle

variable {N : Network}

section Checks

theorem readOnly_requireAuth {σ ε : Type} (address : Address) :
    ReadOnly (requireAuth address : Call Env σ ε Unit) :=
  readOnly_context.bind fun _ => readOnly_require _

theorem readOnly_timestamp {σ ε : Type} : ReadOnly (timestamp : Call Env σ ε ℕ) :=
  readOnly_context.bind fun _ => readOnly_pure _

theorem readOnly_checkedI128 {σ ε : Type} (x : ℤ) : ReadOnly (checkedI128 x : Call Env σ ε ℤ) :=
  (readOnly_require _).bind fun _ => readOnly_pure _

theorem readOnly_checkedU64 {σ ε : Type} (n : ℕ) : ReadOnly (checkedU64 n : Call Env σ ε ℕ) :=
  (readOnly_require _).bind fun _ => readOnly_pure _

theorem readOnly_checkedU32 {σ ε : Type} (n : ℕ) : ReadOnly (checkedU32 n : Call Env σ ε ℕ) :=
  (readOnly_require _).bind fun _ => readOnly_pure _

theorem readOnly_updatePoolTotals (poll : Poll) (amount : ℤ) (side : StakeSide) :
    ReadOnly (updatePoolTotals poll amount side : MarketCall N Poll) := by
  cases side with
  | yes | no =>
      refine (readOnly_checkedI128 _).bind fun _ => ?_
      exact (readOnly_checkedU32 _).bind fun _ => readOnly_pure _

theorem readOnly_getAdmin : ReadOnly (MarketStorage.getAdmin : MarketCall N Address) :=
  (readOnly_load _).bind fun _ => readOnly_okOr _ _

theorem readOnly_getOracle : ReadOnly (getOracle : MarketCall N Address) :=
  (readOnly_load _).bind fun _ => readOnly_okOr _ _

theorem readOnly_ensureNotPaused : ReadOnly (ensureNotPaused : MarketCall N Unit) :=
  (readOnly_load _).bind fun _ => readOnly_failIf _ _

theorem readOnly_requireAdmin (caller : Address) :
    ReadOnly (requireAdmin caller : MarketCall N Unit) := by
  refine (readOnly_requireAuth caller).bind fun _ => ?_
  exact readOnly_getAdmin.bind fun _ => readOnly_failIf _ _

theorem readOnly_getTokenAddress : ReadOnly (getTokenAddress : MarketCall N Address) :=
  (readOnly_load _).bind fun _ => readOnly_okOr _ _

theorem readOnly_callOracle {α : Type} (oracleId : Address) (f : OracleStorage → α) :
    ReadOnly (callOracle oracleId (load f) : MarketCall N α) := by
  intro env w
  unfold callOracle
  cases hstorage : w.oracles.lookup oracleId with
  | none => trivial
  | some storage =>
      refine ⟨?_, rfl⟩
      rw [insert_lookup_self hstorage]

theorem readOnly_eligible (oracleId : Address) (pollId : ℕ) :
    ReadOnly (eligible oracleId pollId : MarketCall N Bool) := by
  refine (readOnly_callOracle oracleId _).bind fun status => ?_
  refine readOnly_ite (readOnly_pure _) (readOnly_ite ?_ (readOnly_pure _))
  refine (readOnly_callOracle oracleId _).bind fun updatedAt => ?_
  exact readOnly_timestamp.bind fun now => readOnly_pure _

theorem readOnly_reschedule (m : Match) (now : ℕ) (kickoffTime : Option ℕ) :
    ReadOnly (reschedule m now kickoffTime : MarketCall N Match) := by
  cases kickoffTime with
  | none => exact readOnly_pure m
  | some kt => exact (readOnly_failIf _ _).bind fun _ => readOnly_pure _

end Checks

section Effects

variable (w : World N)

theorem errorFree_requireAuth (address : Address) :
    ErrorFree (requireAuth address : MarketCall N Unit) w :=
  (errorFree_context w).bind fun _ _ _ _ => errorFree_require _ _

theorem errorFree_setMarket (f : Market → Market) :
    ErrorFree (setMarket f : MarketCall N Unit) w :=
  errorFree_store _ w

theorem errorFree_publish (event : Event) : ErrorFree (publish event : MarketCall N Unit) w :=
  errorFree_store _ w

theorem errorFree_checkedI128 (x : ℤ) : ErrorFree (checkedI128 x : MarketCall N ℤ) w :=
  (errorFree_require _ w).bind fun _ _ _ _ => errorFree_pure _ _

theorem errorFree_checkedU64 (n : ℕ) : ErrorFree (checkedU64 n : MarketCall N ℕ) w :=
  (errorFree_require _ w).bind fun _ _ _ _ => errorFree_pure _ _

theorem errorFree_checkedU32 (n : ℕ) : ErrorFree (checkedU32 n : MarketCall N ℕ) w :=
  (errorFree_require _ w).bind fun _ _ _ _ => errorFree_pure _ _

theorem errorFree_callOracle {α : Type} (oracleId : Address) (entry : OracleCall α) :
    ErrorFree (callOracle oracleId entry : MarketCall N α) w := by
  intro env
  unfold callOracle
  cases w.oracles.lookup oracleId with
  | none => trivial
  | some storage =>
      dsimp only
      cases entry (env.callee oracleId) storage <;> trivial

theorem errorFree_tokenTransfer (token src dst : Address) (amount : ℤ) :
    ErrorFree (tokenTransfer token src dst amount : MarketCall N Unit) w := by
  refine (errorFree_context w).bind fun _ _ _ _ => ?_
  refine (errorFree_load _ _).bind fun _ _ _ _ => ?_
  exact (errorFree_orAbort _ _ _).bind fun _ _ _ _ => errorFree_store _ _

theorem errorFree_updatePoolTotals (poll : Poll) (amount : ℤ) (side : StakeSide) :
    ErrorFree (updatePoolTotals poll amount side : MarketCall N Poll) w := by
  cases side with
  | yes | no =>
      refine (errorFree_checkedI128 w _).bind fun _ _ w _ => ?_
      exact (errorFree_checkedU32 w _).bind fun _ _ _ _ => errorFree_pure _ _

theorem clean_transferToContract (src : Address) (amount : ℤ) :
    CleanErrors (transferToContract src amount : MarketCall N Unit) w := by
  refine readOnly_getTokenAddress.bind_clean fun _ _ _ => ErrorFree.clean ?_
  exact (errorFree_context w).bind fun _ _ w _ => errorFree_tokenTransfer w _ _ _ _

theorem errorFree_getTokenAddress {w : World N} {token : Address}
    (h : w.market.tokenAddress = some token) :
    ErrorFree (getTokenAddress : MarketCall N Address) w := by
  refine (errorFree_load _ _).bind fun env stored w' hloaded => ?_
  obtain ⟨rfl, rfl⟩ := load_returns.mp hloaded
  rw [h]
  exact errorFree_pure _ _

theorem errorFree_transferFromContract {w : World N} {token : Address}
    (h : w.market.tokenAddress = some token) (dst : Address) (amount : ℤ) :
    ErrorFree (transferFromContract dst amount : MarketCall N Unit) w := by
  refine (errorFree_getTokenAddress h).bind fun _ _ _ _ => ?_
  exact (errorFree_context _).bind fun _ _ w _ => errorFree_tokenTransfer w _ _ _ _

end Effects

section Operations

variable (w : World N)

theorem clean_initializeMarket (admin votingOracle tokenAddress treasuryAddress : Address)
    (platformFeeBps : ℕ) :
    CleanErrors (PredictionMarket.initializeMarket admin votingOracle tokenAddress
      treasuryAddress platformFeeBps : MarketCall N Unit) w := by
  refine (readOnly_load _).bind_clean fun _ stored _ => ?_
  refine (readOnly_failIf _ _).bind_clean fun _ _ _ => ErrorFree.clean ?_
  refine (errorFree_requireAuth w admin).bind fun _ _ _ _ => ?_
  refine (errorFree_setMarket _ _).bind fun _ _ _ _ => ?_
  refine (errorFree_setMarket _ _).bind fun _ _ _ _ => ?_
  refine (errorFree_setMarket _ _).bind fun _ _ _ _ => ?_
  refine (errorFree_setMarket _ _).bind fun _ _ _ _ => ?_
  refine (errorFree_setMarket _ _).bind fun _ _ _ _ => ?_
  refine (errorFree_setMarket _ _).bind fun _ _ _ _ => ?_
  exact (errorFree_setMarket _ _).bind fun _ _ _ _ => errorFree_setMarket _ _

theorem clean_setOracle (votingOracle : Address) :
    CleanErrors (PredictionMarket.setOracle votingOracle : MarketCall N Unit) w := by
  refine readOnly_ensureNotPaused.bind_clean fun _ _ _ => ?_
  refine readOnly_getAdmin.bind_clean fun _ admin _ => ErrorFree.clean ?_
  exact (errorFree_requireAuth w admin).bind fun _ _ _ _ => errorFree_setMarket _ _

theorem clean_setPaused (admin : Address) (paused : Bool) (event : Event) :
    CleanErrors (setPaused admin paused event : MarketCall N Unit) w := by
  refine readOnly_getAdmin.bind_clean fun _ storedAdmin _ => ?_
  refine (readOnly_failIf _ _).bind_clean fun _ _ _ => ErrorFree.clean ?_
  refine (errorFree_requireAuth w admin).bind fun _ _ _ _ => ?_
  exact (errorFree_setMarket _ _).bind fun _ _ _ _ => errorFree_publish _ _

theorem clean_cancelPoll (admin : Address) (pollId : ℕ) :
    CleanErrors (PredictionMarket.cancelPoll admin pollId : MarketCall N Unit) w := by
  refine readOnly_ensureNotPaused.bind_clean fun _ _ _ => ?_
  refine readOnly_getAdmin.bind_clean fun _ storedAdmin _ => ?_
  refine (readOnly_failIf _ _).bind_clean fun _ _ _ => ?_
  refine (readOnly_requireAuth admin).bind_clean fun _ _ _ => ?_
  refine readOnly_getOracle.bind_clean fun _ oracleId _ => ErrorFree.clean ?_
  exact (errorFree_callOracle w oracleId _).bind fun _ _ _ _ => errorFree_publish _ _

/-- The flag is set before a transfer that could still report a missing token;
where an oracle is configured there is none missing. -/
theorem clean_emergencyWithdraw {w : World N}
    (hconfigured : ∀ oracleId, w.market.votingOracle = some oracleId →
      ∃ token, w.market.tokenAddress = some token) (user : Address) (pollId : ℕ) :
    CleanErrors (PredictionMarket.emergencyWithdraw user pollId : MarketCall N ℤ) w := by
  refine (readOnly_requireAuth user).bind_clean fun _ _ _ => ?_
  refine (readOnly_load _).bind_clean fun _ claimed _ => ?_
  refine (readOnly_failIf _ _).bind_clean fun _ _ _ => ?_
  refine readOnly_getOracle.bind_clean fun _ oracleId hreturned => ?_
  obtain ⟨token, htoken⟩ := hconfigured oracleId (getOracle_returns.mp hreturned).1
  refine (readOnly_eligible oracleId pollId).bind_clean fun _ eligible _ => ?_
  refine (readOnly_failIf _ _).bind_clean fun _ _ _ => ?_
  refine (readOnly_load _).bind_clean fun _ stored _ => ?_
  refine (readOnly_okOr _ _).bind_clean fun _ stake _ => ErrorFree.clean ?_
  refine (errorFree_setMarket _ _).bind fun _ _ w' hset => ?_
  have htoken' : w'.market.tokenAddress = some token := by
    rw [setMarket_returns.mp hset]
    exact htoken
  refine (errorFree_transferFromContract htoken' user _).bind fun _ _ _ _ => ?_
  refine (errorFree_load _ _).bind fun _ stats _ _ => ?_
  refine (errorFree_checkedI128 _ _).bind fun _ totalValueLocked _ _ => ?_
  refine (errorFree_setMarket _ _).bind fun _ _ _ _ => ?_
  exact (errorFree_publish _ _).bind fun _ _ _ _ => errorFree_pure _ _

theorem clean_createPoll (creator : Address) (matchId : ℕ) (question : String)
    (category : PollCategory) (lockTime : ℕ) :
    CleanErrors (PredictionMarket.createPoll creator matchId question category lockTime :
      MarketCall N ℕ) w := by
  refine readOnly_ensureNotPaused.bind_clean fun _ _ _ => ?_
  refine (readOnly_requireAuth creator).bind_clean fun _ _ _ => ?_
  refine (readOnly_load _).bind_clean fun _ stored _ => ?_
  refine (readOnly_okOr _ _).bind_clean fun _ _ _ => ?_
  refine readOnly_timestamp.bind_clean fun _ now _ => ?_
  refine (readOnly_failIf _ _).bind_clean fun _ _ _ => ?_
  refine (readOnly_load _).bind_clean fun _ matchPolls _ => ?_
  refine (readOnly_failIf _ _).bind_clean fun _ _ _ => ErrorFree.clean ?_
  refine (errorFree_load _ _).bind fun _ pollId _ _ => ?_
  refine (errorFree_setMarket _ _).bind fun _ _ _ _ => ?_
  refine (errorFree_setMarket _ _).bind fun _ _ _ _ => ?_
  refine (errorFree_checkedU64 _ _).bind fun _ nextPollId _ _ => ?_
  refine (errorFree_setMarket _ _).bind fun _ _ _ _ => ?_
  refine (errorFree_load _ _).bind fun _ stats _ _ => ?_
  refine (errorFree_checkedU64 _ _).bind fun _ totalPollsCreated _ _ => ?_
  refine (errorFree_setMarket _ _).bind fun _ _ _ _ => ?_
  exact (errorFree_publish _ _).bind fun _ _ _ _ => errorFree_pure _ _

theorem clean_stake (staker : Address) (pollId : ℕ) (amount : ℤ) (side : StakeSide) :
    CleanErrors (Staking.stake staker pollId amount side : MarketCall N Stake) w := by
  refine (readOnly_requireAuth staker).bind_clean fun _ _ _ => ?_
  refine readOnly_ensureNotPaused.bind_clean fun _ _ _ => ?_
  refine (readOnly_failIf _ _).bind_clean fun _ _ _ => ?_
  refine (readOnly_failIf _ _).bind_clean fun _ _ _ => ?_
  refine (readOnly_load _).bind_clean fun _ stored _ => ?_
  refine (readOnly_okOr _ _).bind_clean fun _ poll _ => ?_
  refine (readOnly_failIf _ _).bind_clean fun _ _ _ => ?_
  refine readOnly_timestamp.bind_clean fun _ now _ => ?_
  refine (readOnly_failIf _ _).bind_clean fun _ _ _ => ?_
  refine (readOnly_load _).bind_clean fun _ hasStaked _ => ?_
  refine (readOnly_failIf _ _).bind_clean fun _ _ _ => ?_
  -- The transfer reports a missing token before it moves anything.
  refine (clean_transferToContract w staker amount).bind fun _ _ _ _ => ?_
  refine (errorFree_setMarket _ _).bind fun _ _ _ _ => ?_
  refine (errorFree_setMarket _ _).bind fun _ _ _ _ => ?_
  refine (errorFree_updatePoolTotals _ poll amount side).bind fun _ poll' _ _ => ?_
  refine (errorFree_setMarket _ _).bind fun _ _ _ _ => ?_
  refine (errorFree_load _ _).bind fun _ userStakes _ _ => ?_
  refine (errorFree_setMarket _ _).bind fun _ _ _ _ => ?_
  refine (errorFree_load _ _).bind fun _ stats _ _ => ?_
  refine (errorFree_checkedI128 _ _).bind fun _ totalValueLocked _ _ => ?_
  refine (errorFree_checkedU64 _ _).bind fun _ totalStakesPlaced _ _ => ?_
  refine (errorFree_setMarket _ _).bind fun _ _ _ _ => ?_
  exact (errorFree_publish _ _).bind fun _ _ _ _ => errorFree_pure _ _

theorem clean_createMatch (admin : Address) (homeTeam awayTeam league venue : String)
    (kickoffTime : ℕ) :
    CleanErrors (Matches.createMatch admin homeTeam awayTeam league venue kickoffTime :
      MarketCall N ℕ) w := by
  refine (readOnly_requireAdmin admin).bind_clean fun _ _ _ => ?_
  refine readOnly_timestamp.bind_clean fun _ now _ => ?_
  refine (readOnly_failIf _ _).bind_clean fun _ _ _ => ErrorFree.clean ?_
  refine (errorFree_load _ _).bind fun _ matchId _ _ => ?_
  refine (errorFree_setMarket _ _).bind fun _ _ _ _ => ?_
  refine (errorFree_setMarket _ _).bind fun _ _ _ _ => ?_
  refine (errorFree_checkedU64 _ _).bind fun _ nextMatchId _ _ => ?_
  refine (errorFree_setMarket _ _).bind fun _ _ _ _ => ?_
  exact (errorFree_publish _ _).bind fun _ _ _ _ => errorFree_pure _ _

theorem clean_updateMatch (admin : Address) (matchId : ℕ)
    (homeTeam awayTeam league venue : Option String) (kickoffTime : Option ℕ) :
    CleanErrors (Matches.updateMatch admin matchId homeTeam awayTeam league venue kickoffTime :
      MarketCall N Match) w := by
  refine (readOnly_requireAdmin admin).bind_clean fun _ _ _ => ?_
  refine (readOnly_load _).bind_clean fun _ stored _ => ?_
  refine (readOnly_okOr _ _).bind_clean fun _ m _ => ?_
  refine readOnly_timestamp.bind_clean fun _ now _ => ?_
  refine (readOnly_failIf _ _).bind_clean fun _ _ _ => ?_
  -- Up to here the new fields are in a local copy only.
  refine (readOnly_reschedule _ now kickoffTime).bind_clean fun _ updated _ => ErrorFree.clean ?_
  refine (errorFree_setMarket _ _).bind fun _ _ _ _ => ?_
  exact (errorFree_publish _ _).bind fun _ _ _ _ => errorFree_pure _ _

theorem clean_finishMatch (admin : Address) (matchId : ℕ) :
    CleanErrors (Matches.finishMatch admin matchId : MarketCall N Unit) w := by
  refine (readOnly_requireAdmin admin).bind_clean fun _ _ _ => ?_
  refine (readOnly_load _).bind_clean fun _ stored _ => ?_
  refine (readOnly_okOr _ _).bind_clean fun _ m _ => ErrorFree.clean ?_
  exact (errorFree_setMarket _ _).bind fun _ _ _ _ => errorFree_publish _ _

theorem clean_execute {w : World N}
    (hconfigured : ∀ oracleId, w.market.votingOracle = some oracleId →
      ∃ token, w.market.tokenAddress = some token) (op : MarketOp) :
    CleanErrors (op.execute : MarketCall N Value) w := by
  cases op with
  | initializeMarket =>
      exact (clean_initializeMarket w _ _ _ _ _).bind fun _ _ _ _ => errorFree_pure _ _
  | setOracle => exact (clean_setOracle w _).bind fun _ _ _ _ => errorFree_pure _ _
  | pause | unpause => exact (clean_setPaused w _ _ _).bind fun _ _ _ _ => errorFree_pure _ _
  | cancelPoll => exact (clean_cancelPoll w _ _).bind fun _ _ _ _ => errorFree_pure _ _
  | emergencyWithdraw =>
      exact (clean_emergencyWithdraw hconfigured _ _).bind fun _ _ _ _ => errorFree_pure _ _
  | createPoll => exact (clean_createPoll w _ _ _ _ _).bind fun _ _ _ _ => errorFree_pure _ _
  | stake => exact (clean_stake w _ _ _ _).bind fun _ _ _ _ => errorFree_pure _ _
  | createMatch => exact (clean_createMatch w _ _ _ _ _ _).bind fun _ _ _ _ => errorFree_pure _ _
  | updateMatch =>
      exact (clean_updateMatch w _ _ _ _ _ _ _).bind fun _ _ _ _ => errorFree_pure _ _
  | finishMatch => exact (clean_finishMatch w _ _).bind fun _ _ _ _ => errorFree_pure _ _

end Operations

theorem token_configured {contract : Address} {m : Market} (hcons : Consistent contract m)
    (oracleId : Address) (h : m.votingOracle = some oracleId) :
    ∃ token, m.tokenAddress = some token := by
  rw [← Option.ne_none_iff_exists']
  intro hnone
  rw [hcons.configured, ← hcons.oracle_configured, h] at hnone
  simp at hnone

/-- An entry point that returns an error has written nothing up to there, in
the market, the oracle or the token: no withdrawal is marked, and a match keeps
its other fields when the new kickoff time is refused. -/
theorem errors_write_nothing (x : Execution N) :
    (∀ env (op : MarketOp) reason w' writes, op.execute env x.final = .error reason w' writes →
      w' = x.final ∧ writes = 0) ∧
      (∀ env user pollId reason w' writes,
        PredictionMarket.emergencyWithdraw user pollId env x.final = .error reason w' writes →
          w'.market.emergencyClaimed = x.final.market.emergencyClaimed) ∧
      ∀ env admin matchId homeTeam awayTeam league venue kickoffTime,
        kickoffTime ≤ env.timestamp →
          (∀ updated w', ¬ Returns (Matches.updateMatch admin matchId homeTeam awayTeam league
            venue (some kickoffTime)) env x.final updated w') ∧
          ∀ reason w' writes, Matches.updateMatch admin matchId homeTeam awayTeam league venue
              (some kickoffTime) env x.final = .error reason w' writes →
            w'.market.matchRecords = x.final.market.matchRecords := by
  have hconfigured := token_configured (consistent_run x)
  refine ⟨?_, ?_, ?_⟩
  · intro env op reason w' writes herror
    exact (clean_execute hconfigured op).of_error herror
  · intro env user pollId reason w' writes herror
    obtain ⟨rfl, -⟩ := (clean_emergencyWithdraw hconfigured user pollId).of_error herror
    rfl
  · intro env admin matchId homeTeam awayTeam league venue kickoffTime hpast
    constructor
    · intro updated w' hreturns
      cases updateMatch_committed hreturns with
      | updateMatch _ _ _ _ kickoff_later =>
          exact absurd hpast (not_le.mpr (kickoff_later kickoffTime rfl))
    · intro reason w' writes herror
      obtain ⟨rfl, -⟩ := (clean_updateMatch x.final admin matchId homeTeam awayTeam league venue
        (some kickoffTime)).of_error herror
      rfl

end PredictX.ErrorReturns
