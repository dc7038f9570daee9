import PredictX.ErrorReturns
import PredictX.Identifiers
import PredictX.Solvency
import PredictX.Verdicts
import PredictX.WinningsPreview

namespace PredictX.Views

open PredictX.AdminAuthority
open PredictX.Bookkeeping
open PredictX.CommittedCalls
open PredictX.ErrorReturns
open PredictX.Footprints
open PredictX.HostCall
open PredictX.HostCall.Call
open PredictX.Identifiers
open PredictX.MarketStorage
open PredictX.Matches
open PredictX.OrderedChecks
open PredictX.PredictionMarket
open PredictX.SharedTypes
open PredictX.SorobanHost
open PredictX.Solvency
open PredictX.Staking
open PredictX.System
open PredictX.TokenContracts
open PredictX.TokenUtils
open PredictX.Verdicts
open PredictX.VotingOracle
open PredictX.WinningsPreview

variable {N : Network}

/-- The entry points nobody has to sign. -/
inductive View where
  | admin
  | oracle
  | isPaused
  | oraclePollStatus (pollId : ℕ)
  | checkEmergencyEligible (pollId : ℕ)
  | getPoll (pollId : ℕ)
  | getStakeInfo (pollId : ℕ) (user : Address)
  | getUserStakes (user : Address)
  | hasUserStaked (pollId : ℕ) (user : Address)
  | calculatePotentialWinnings (pollId : ℕ) (side : StakeSide) (amount : ℤ)
  | getPoolInfo (pollId : ℕ)
  | getPlatformStats
  | getTokenAddress
  | getTreasuryAddress
  | getPlatformFeeBps
  | getContractBalance
  | getMatch (matchId : ℕ)
  | getMatchPolls (matchId : ℕ)
  | getMatchCount

abbrev View.Answer : View → Type
  | .admin | .oracle | .getTokenAddress | .getTreasuryAddress => Address
  | .isPaused | .checkEmergencyEligible _ | .hasUserStaked .. => Bool
  | .oraclePollStatus _ => PollStatus
  | .getPoll _ => Poll
  | .getStakeInfo .. => Stake
  | .getUserStakes _ | .getMatchPolls _ => List ℕ
  | .calculatePotentialWinnings .. | .getContractBalance => ℤ
  | .getPoolInfo _ => PoolInfo
  | .getPlatformStats => PlatformStats
  | .getPlatformFeeBps | .getMatchCount => ℕ
  | .getMatch _ => Match

def View.execute : (v : View) → MarketCall N v.Answer
  | .admin => MarketStorage.getAdmin
  | .oracle => getOracle
  | .isPaused => PredictionMarket.isPaused
  | .oraclePollStatus pollId => PredictionMarket.oraclePollStatus pollId
  | .checkEmergencyEligible pollId => PredictionMarket.checkEmergencyEligible pollId
  | .getPoll pollId => PredictionMarket.getPoll pollId
  | .getStakeInfo pollId user => Staking.getStakeInfo pollId user
  | .getUserStakes user => Staking.getUserStakes user
  | .hasUserStaked pollId user => Staking.hasUserStaked pollId user
  | .calculatePotentialWinnings pollId side amount =>
      Staking.calculatePotentialWinnings pollId side amount
  | .getPoolInfo pollId => Staking.getPoolInfo pollId
  | .getPlatformStats => MarketStorage.getPlatformStats
  | .getTokenAddress => TokenUtils.getTokenAddress
  | .getTreasuryAddress => TokenUtils.getTreasuryAddress
  | .getPlatformFeeBps => TokenUtils.getPlatformFeeBps
  | .getContractBalance => getBalance
  | .getMatch matchId => Matches.getMatch matchId
  | .getMatchPolls matchId => Matches.getMatchPolls matchId
  | .getMatchCount => Matches.getMatchCount

section ReadOnly

theorem readOnly_checkEmergencyEligible (pollId : ℕ) :
    ReadOnly (checkEmergencyEligible pollId : MarketCall N Bool) := by
  refine (readOnly_load _).bind fun oracle => ?_
  cases oracle with
  | none => exact readOnly_pure false
  | some oracleId =>
      refine (readOnly_callOracle oracleId _).bind fun status => ?_
      refine readOnly_ite (readOnly_pure _) (readOnly_ite (readOnly_pure _) ?_)
      refine (readOnly_callOracle oracleId _).bind fun updatedAt => ?_
      refine readOnly_timestamp.bind fun now => ?_
      exact readOnly_ite (readOnly_pure _) (readOnly_pure _)

theorem readOnly_calculatePotentialWinnings (pollId : ℕ) (side : StakeSide) (amount : ℤ) :
    ReadOnly (calculatePotentialWinnings pollId side amount : MarketCall N ℤ) := by
  refine (readOnly_failIf _ _).bind fun _ => ?_
  refine (readOnly_load _).bind fun stored => (readOnly_okOr _ _).bind fun poll => ?_
  refine (readOnly_checkedI128 _).bind fun poolOnSideAfter => ?_
  refine (readOnly_checkedI128 _).bind fun totalPool => ?_
  refine (readOnly_checkedI128 _).bind fun totalPoolAfter => ?_
  refine (readOnly_load _).bind fun feeBps => ?_
  refine ((readOnly_require _).bind fun _ => readOnly_pure _).bind fun feeFactor => ?_
  refine (readOnly_checkedI128 _).bind fun gross => ?_
  refine (readOnly_checkedI128 _).bind fun net => ?_
  refine (readOnly_checkedI128 _).bind fun divisor => ?_
  exact (readOnly_require _).bind fun _ => readOnly_checkedI128 _

theorem readOnly_view (v : View) : ReadOnly (v.execute : MarketCall N v.Answer) := by
  cases v with
  | admin => exact readOnly_getAdmin
  | oracle => exact readOnly_getOracle
  | oraclePollStatus pollId =>
      refine readOnly_getOracle.bind fun oracleId => ?_
      exact (readOnly_callOracle oracleId _).bind fun status => readOnly_pure _
  | checkEmergencyEligible pollId => exact readOnly_checkEmergencyEligible pollId
  | calculatePotentialWinnings pollId side amount =>
      exact readOnly_calculatePotentialWinnings pollId side amount
  | getPoolInfo =>
      exact (readOnly_load _).bind fun _ => (readOnly_okOr _ _).bind fun _ => readOnly_pure _
  | getContractBalance =>
      refine readOnly_getTokenAddress.bind fun _ => readOnly_context.bind fun _ => ?_
      exact (readOnly_load _).bind fun _ => readOnly_orAbort _ _
  | getMatchPolls =>
      exact (readOnly_load _).bind fun _ => (readOnly_failIf _ _).bind fun _ => readOnly_load _
  | isPaused | getUserStakes | hasUserStaked | getPlatformStats | getPlatformFeeBps
  | getMatchCount => exact readOnly_load _
  | _ => exact (readOnly_load _).bind fun _ => readOnly_okOr _ _

end ReadOnly

/-- What a view answers. -/
def ask (w : World N) (v : View) : Reply PredictXError v.Answer := query w v.execute

def Answers (w : World N) (v : View) : Prop := ∃ a, ask w v = .ok a

/-- A stored value, or the error for a missing one. -/
def unwrap {α : Type} (value : Option α) (reason : PredictXError) : Reply PredictXError α :=
  match value with
  | some a => .ok a
  | none => .error reason

theorem map_id_reply {α : Type} (reply : Reply PredictXError α) : reply.map id = reply := by
  cases reply <;> rfl

theorem unwrap_eq_ok {α : Type} {value : Option α} {reason : PredictXError} {a : α} :
    unwrap value reason = .ok a ↔ value = some a := by
  cases value with
  | none => exact iff_of_false (fun h => nomatch h) (fun h => nomatch h)
  | some b => rw [unwrap, Reply.ok.injEq, Option.some.injEq]

theorem query_unwrap {α : Type} (w : World N) (f : World N → Option α) (reason : PredictXError) :
    query w (load f >>= fun a => okOr a reason : MarketCall N α) = unwrap (f w) reason := by
  rw [query, commit_fst, reply_bind (load_returns.mpr ⟨rfl, rfl⟩)]
  cases f w <;> rfl

section Answers

variable (w : World N)

theorem ask_admin : ask w .admin = unwrap w.market.admin .notInitialized :=
  query_unwrap w _ _

theorem ask_oracle : ask w .oracle = unwrap w.market.votingOracle .notInitialized :=
  query_unwrap w _ _

theorem ask_getTokenAddress :
    ask w .getTokenAddress = unwrap w.market.tokenAddress .notInitialized :=
  query_unwrap w _ _

theorem ask_getTreasuryAddress :
    ask w .getTreasuryAddress = unwrap w.market.treasuryAddress .notInitialized :=
  query_unwrap w _ _

theorem ask_getPoll (pollId : ℕ) :
    ask w (.getPoll pollId) = unwrap (w.market.polls.lookup pollId) .pollNotFound :=
  query_unwrap w _ _

theorem ask_getStakeInfo (pollId : ℕ) (user : Address) :
    ask w (.getStakeInfo pollId user) =
      unwrap (w.market.stakes.lookup (pollId, user)) .notStaker :=
  query_unwrap w _ _

theorem ask_getMatch (matchId : ℕ) :
    ask w (.getMatch matchId) = unwrap (w.market.matchRecords.lookup matchId) .matchNotFound :=
  query_unwrap w _ _

def poolInfo (poll : Poll) : PoolInfo where
  yesPool := poll.yesPool
  noPool := poll.noPool
  yesCount := poll.yesCount
  noCount := poll.noCount

theorem ask_getPoolInfo (pollId : ℕ) :
    ask w (.getPoolInfo pollId) = (ask w (.getPoll pollId)).map poolInfo := by
  rw [ask_getPoll, ask, query, commit_fst]
  change ((load _ >>= fun stored => okOr stored _ >>= fun poll => pure (poolInfo poll)) _ w).reply =
    _
  rw [← bind_assoc, reply_map]
  congr 1
  exact commit_fst.symm.trans (query_unwrap w _ _)

theorem ask_getMatchPolls (matchId : ℕ) (ids : List ℕ) :
    ask w (.getMatchPolls matchId) = .ok ids ↔
      matchId ∈ w.market.matchRecords ∧ ids = pollList w.market matchId :=
  query_getMatchPolls

theorem ask_getContractBalance (balance : ℤ) :
    ask w .getContractBalance = .ok balance ↔
      ∃ token, w.market.tokenAddress = some token ∧
        N.query w.tokens token N.market = some balance := by
  rw [ask, query_eq_ok]
  simp [View.execute, getBalance, bind_returns, getTokenAddress_returns, context_returns,
    load_returns, orAbort_returns, callEnv]

theorem ask_oraclePollStatus (pollId : ℕ) (status : PollStatus) :
    ask w (.oraclePollStatus pollId) = .ok status ↔
      Configured w (fun s => s.pollStatusOf pollId = status) := by
  rw [ask, query_eq_ok]
  simp only [View.execute, oraclePollStatus, getPollStatus, bind_returns, getOracle_returns,
    callOracle_load_returns, mapOraclePollStatus_eq, pure_returns]
  constructor
  · rintro ⟨_, oracleId, _, ⟨horacle, rfl⟩, _, _, ⟨storage, hstorage, rfl, rfl⟩, rfl, rfl⟩
    exact ⟨oracleId, storage, horacle, hstorage, rfl⟩
  · rintro ⟨oracleId, storage, horacle, hstorage, rfl⟩
    exact ⟨w, oracleId, w, ⟨horacle, rfl⟩, _, w, ⟨storage, hstorage, rfl, rfl⟩, rfl, rfl⟩

theorem reply_getMatchPolls (matchId : ℕ) : ask w (.getMatchPolls matchId) =
    if matchId ∈ w.market.matchRecords then .ok (pollList w.market matchId)
    else .error .matchNotFound := by
  split
  · rename_i hmatch
    exact (ask_getMatchPolls w _ _).mpr ⟨hmatch, rfl⟩
  · rename_i hmissing
    rw [ask, query, commit_fst]
    dsimp only [View.execute, getMatchPolls]
    rw [reply_bind (load_returns.mpr ⟨rfl, rfl⟩)]
    exact reply_bind_error (reply_failIf (decide_eq_false hmissing))

/-- What the token tells its holder, or the error with which that call fails. -/
def tokenReply (token : Address) : Reply PredictXError ℤ :=
  match N.query w.tokens token N.market with
  | some balance => .ok balance
  | none => .trap ((N.queryError w.tokens token N.market).bind PredictXError.ofCode)

theorem reply_getContractBalance : ask w .getContractBalance =
    match w.market.tokenAddress with
    | some token => tokenReply w token
    | none => .error .notInitialized := by
  rw [ask, query, commit_fst]
  dsimp only [View.execute, getBalance]
  cases htoken : w.market.tokenAddress with
  | none =>
      apply reply_bind_error
      rw [getTokenAddress, reply_bind (load_returns.mpr ⟨rfl, rfl⟩), htoken]
      rfl
  | some token =>
      rw [reply_bind (getTokenAddress_returns.mpr ⟨htoken, rfl⟩),
        reply_bind (context_returns.mpr ⟨rfl, rfl⟩), reply_bind (load_returns.mpr ⟨rfl, rfl⟩)]
      unfold tokenReply
      dsimp only [callEnv]
      cases N.query w.tokens token N.market <;> rfl

/-- What the market's oracle says, if there is one; `unset` answers for a market
without an oracle. -/
def asked {α : Type} (f : OracleStorage → α) (unset : Reply PredictXError α) :
    Reply PredictXError α :=
  match w.market.votingOracle with
  | none => unset
  | some oracleId =>
      match w.oracles.lookup oracleId with
      | none => .trap none
      | some storage => .ok (f storage)

section Asked

variable {w} {α : Type} {f : OracleStorage → α} {unset : Reply PredictXError α}

theorem asked_unset (h : w.market.votingOracle = none) : asked w f unset = unset := by
  simp only [asked, h]

variable {oracleId : Address} (horacle : w.market.votingOracle = some oracleId)
include horacle

theorem asked_missing (h : w.oracles.lookup oracleId = none) : asked w f unset = .trap none := by
  simp only [asked, horacle, h]

theorem asked_found {storage : OracleStorage} (h : w.oracles.lookup oracleId = some storage) :
    asked w f unset = .ok (f storage) := by
  simp only [asked, horacle, h]

end Asked

theorem reply_oraclePollStatus (pollId : ℕ) : ask w (.oraclePollStatus pollId) =
    asked w (·.pollStatusOf pollId) (.error .notInitialized) := by
  cases horacle : w.market.votingOracle with
  | none =>
      rw [asked_unset horacle, ask, query, commit_fst]
      exact reply_bind_error (reply_getOracle horacle)
  | some oracleId =>
      cases hdeployed : w.oracles.lookup oracleId with
      | none =>
          rw [asked_missing horacle hdeployed, ask, query, commit_fst]
          dsimp only [View.execute, oraclePollStatus]
          rw [reply_bind (getOracle_returns.mpr ⟨horacle, rfl⟩)]
          exact reply_bind_trap (reply_callOracle hdeployed)
      | some storage =>
          rw [asked_found horacle hdeployed, ask_oraclePollStatus]
          exact ⟨oracleId, storage, horacle, hdeployed, rfl⟩

theorem reply_checkEmergencyEligible (pollId : ℕ) : ask w (.checkEmergencyEligible pollId) =
    asked w (fun s => decide (Refundable s pollId w.now)) (.ok false) := by
  have hload : ∀ {oracle}, w.market.votingOracle = oracle → Returns
      (load (·.market.votingOracle) : MarketCall N (Option Address))
      (callEnv N.market (unsigned N) w.now) w oracle w := by
    intro oracle h
    exact load_returns.mpr ⟨h.symm, rfl⟩
  cases horacle : w.market.votingOracle with
  | none =>
      rw [asked_unset horacle, ask, query, commit_fst]
      dsimp only [View.execute, PredictionMarket.checkEmergencyEligible]
      rw [reply_bind (hload horacle)]
      rfl
  | some oracleId =>
      cases hdeployed : w.oracles.lookup oracleId with
      | none =>
          rw [asked_missing horacle hdeployed, ask, query, commit_fst]
          dsimp only [View.execute, PredictionMarket.checkEmergencyEligible]
          rw [reply_bind (hload horacle)]
          exact reply_bind_trap (reply_callOracle hdeployed)
      | some storage =>
          rw [asked_found horacle hdeployed, ask, query_eq_ok]
          exact ⟨w, (checkEmergencyEligible_returns horacle hdeployed).mpr ⟨rfl, rfl⟩⟩

/-- The checks of a preview once its poll is found, in the order of the
computation. -/
def previewChecks (poll : Poll) (side : StakeSide) (amount : ℤ) (fee : ℕ) :
    List (Check PredictXError) :=
  let onSide := poolOnSide poll side + amount
  let total := poll.yesPool + poll.noPool
  let kept := ((bpsDenominator - fee : ℕ) : ℤ)
  [.abort (decide (¬ InI128 onSide)), .abort (decide (¬ InI128 total)),
    .abort (decide (¬ InI128 (total + amount))), .abort (decide (¬ fee ≤ bpsDenominator)),
    .abort (decide (¬ InI128 (amount * (total + amount)))),
    .abort (decide (¬ InI128 (amount * (total + amount) * kept))),
    .abort (decide (¬ InI128 (onSide * bpsDenominator))),
    .abort (decide (¬ onSide * bpsDenominator ≠ 0)),
    .abort (decide (¬ InI128 (previewed kept poll side amount)))]

theorem reply_preview (pollId : ℕ) (side : StakeSide) (amount : ℤ) :
    ask w (.calculatePotentialWinnings pollId side amount) =
      verdict
        (((w.market.polls.lookup pollId).map fun poll =>
          previewed ((bpsDenominator - feeBps w.market : ℕ) : ℤ) poll side amount).getD 0)
        ([.error (decide (amount ≤ 0)) .stakeAmountZero,
          .error (w.market.polls.lookup pollId).isNone .pollNotFound] ++
          ((w.market.polls.lookup pollId).map fun poll =>
            previewChecks poll side amount (feeBps w.market)).getD []) := by
  rw [ask, query, commit_fst]
  refine (map_id_reply _).symm.trans ?_
  dsimp only [View.execute, calculatePotentialWinnings]
  apply reply_check_failIf decide_eq_true_iff
  intro _
  apply reply_pass (load_returns.mpr ⟨rfl, rfl⟩)
  apply reply_check_okOr
  intro poll hpoll
  rw [hpoll, Option.map_some, Option.map_some, Option.getD_some, Option.getD_some]
  dsimp only [previewChecks]
  apply reply_check_i128
  intro _
  apply reply_check_i128
  intro _
  apply reply_check_i128
  intro _
  apply reply_pass (load_returns.mpr ⟨rfl, rfl⟩)
  rw [checkedSubU32, bind_assoc]
  apply reply_check_require decide_eq_true_iff
  intro _
  apply reply_pass (pure_returns.mpr ⟨rfl, rfl⟩)
  apply reply_check_i128
  intro _
  apply reply_check_i128
  intro _
  apply reply_check_i128
  intro _
  apply reply_check_require decide_eq_true_iff
  intro _
  apply reply_check_require decide_eq_true_iff
  intro _
  rfl

end Answers

/-- The views agree with one another.  The balance of the market is what the
token answers, if it does. -/
structure ViewsAgree (w : World N) : Prop where
  configuration : ∀ v ∈ [View.oracle, .getTokenAddress, .getTreasuryAddress],
    Answers w v ↔ Answers w .admin
  balance : ∀ amount : ℤ, ask w .getContractBalance = .ok amount ↔
    ∃ token, ask w .getTokenAddress = .ok token ∧ N.query w.tokens token N.market = some amount
  poolInfo_eq : ∀ pollId, ask w (.getPoolInfo pollId) = (ask w (.getPoll pollId)).map poolInfo
  staked : ∀ pollId user,
    ask w (.hasUserStaked pollId user) = .ok true ↔ Answers w (.getStakeInfo pollId user)
  listed : ∀ user ids, ask w (.getUserStakes user) = .ok ids → ids.Nodup ∧
    ∀ pollId, pollId ∈ ids ↔ Answers w (.getStakeInfo pollId user)
  stakeInfo : ∀ pollId user record, ask w (.getStakeInfo pollId user) = .ok record →
    record.pollId = pollId ∧ record.user = user ∧ Answers w (.getPoll pollId)
  poll : ∀ pollId poll, ask w (.getPoll pollId) = .ok poll → poll.pollId = pollId ∧
    Answers w (.getMatch poll.matchId) ∧
    ∃ ids, ask w (.getMatchPolls poll.matchId) = .ok ids ∧ pollId ∈ ids
  counted : ∀ stats, ask w .getPlatformStats = .ok stats → ∀ pollId,
    Answers w (.getPoll pollId) ↔ 1 ≤ pollId ∧ pollId ≤ stats.totalPollsCreated
  matchCount : ∀ count, ask w .getMatchCount = .ok count → ∀ matchId,
    (Answers w (.getMatch matchId) ↔ 1 ≤ matchId ∧ matchId ≤ count) ∧
      (Answers w (.getMatchPolls matchId) ↔ 1 ≤ matchId ∧ matchId ≤ count)
  backed : ∀ stats balance, ask w .getPlatformStats = .ok stats →
    ask w .getContractBalance = .ok balance → stats.totalValueLocked ≤ balance
  cancelled : ∀ pollId, ask w (.oraclePollStatus pollId) = .ok .cancelled →
    ask w (.checkEmergencyEligible pollId) = .ok true

theorem exists_unwrap {α : Type} {value : Option α} {reason : PredictXError} :
    (∃ a, unwrap value reason = .ok a) ↔ value ≠ none := by
  simp only [unwrap_eq_ok, Option.ne_none_iff_exists']

theorem treasury_step {w w' : World N} {a : Action N} {reply : Reply PredictXError Value}
    (hstep : Step w a reply w') (h : w.market.treasuryAddress = none ↔ w.market.admin = none) :
    w'.market.treasuryAddress = none ↔ w'.market.admin = none := by
  cases hstep with
  | market committed =>
      cases committed with
      | initializeMarket => exact iff_of_false nofun nofun
      | _ => exact h
  | _ => exact h

section Agreement

variable {w : World N}

theorem configuration_agrees (hcons : Consistent N.market w.market)
    (htreasury : w.market.treasuryAddress = none ↔ w.market.admin = none) :
    ∀ v ∈ [View.oracle, .getTokenAddress, .getTreasuryAddress],
      Answers w v ↔ Answers w .admin := by
  have hadmin : Answers w .admin ↔ w.market.admin ≠ none := by
    rw [Answers, ask_admin, exists_unwrap]
  rw [hadmin]
  refine List.forall_mem_cons.mpr ⟨?_, List.forall_mem_cons.mpr
    ⟨?_, List.forall_mem_singleton.mpr ?_⟩⟩
  · rw [Answers, ask_oracle, exists_unwrap, ne_eq, hcons.oracle_configured]
  · rw [Answers, ask_getTokenAddress, exists_unwrap, ne_eq, hcons.configured]
  · rw [Answers, ask_getTreasuryAddress, exists_unwrap, ne_eq, htreasury]

theorem answers_getStakeInfo {pollId : ℕ} {user : Address} :
    Answers w (.getStakeInfo pollId user) ↔ (pollId, user) ∈ w.market.stakes := by
  rw [Answers, ask_getStakeInfo, exists_unwrap, ne_eq, Finmap.lookup_eq_none, not_not]

theorem answers_getPoll {pollId : ℕ} :
    Answers w (.getPoll pollId) ↔ pollId ∈ w.market.polls := by
  rw [Answers, ask_getPoll, exists_unwrap, ne_eq, Finmap.lookup_eq_none, not_not]

theorem answers_getMatch {matchId : ℕ} :
    Answers w (.getMatch matchId) ↔ matchId ∈ w.market.matchRecords := by
  rw [Answers, ask_getMatch, exists_unwrap, ne_eq, Finmap.lookup_eq_none, not_not]

theorem answers_getMatchPolls {matchId : ℕ} :
    Answers w (.getMatchPolls matchId) ↔ matchId ∈ w.market.matchRecords := by
  constructor
  · rintro ⟨ids, hids⟩
    exact ((ask_getMatchPolls w matchId ids).mp hids).1
  · intro hmatch
    exact ⟨_, (ask_getMatchPolls w matchId _).mpr ⟨hmatch, rfl⟩⟩

end Agreement

/-- In every reachable state each view answers without changing the ledger,
whoever asks, and the answers fit together. -/
theorem views_agree (x : Execution N) :
    (∀ v : View, ReadOnly (v.execute : MarketCall N v.Answer)) ∧ ViewsAgree x.final := by
  have hcons := consistent_run x
  have hnumbered := numbered_run x
  have hfirst := hnumbered.match_first
  have hcreated := hnumbered.created
  refine ⟨readOnly_view, ?_⟩
  refine
    { configuration := ?_, balance := ?_, poolInfo_eq := ask_getPoolInfo _, staked := ?_
      listed := ?_, stakeInfo := ?_, poll := ?_, counted := ?_, matchCount := ?_, backed := ?_
      cancelled := ?_ }
  · refine configuration_agrees hcons ?_
    exact x.induction (P := fun _ w => w.market.treasuryAddress = none ↔ w.market.admin = none)
      Iff.rfl fun _ _ _ h => treasury_step (step_cases _ _) h
  · intro amount
    rw [ask_getContractBalance]
    simp only [ask_getTokenAddress, unwrap_eq_ok]
  · intro pollId user
    rw [answers_getStakeInfo, ← hcons.hasStaked_iff]
    change (Reply.ok (decide ((pollId, user) ∈ x.final.market.hasStaked)) : Reply _ Bool) =
      .ok true ↔ _
    rw [Reply.ok.injEq, decide_eq_true_iff]
  · intro user ids hids
    cases (Reply.ok.inj hids : x.final.market.userStakesOf user = ids)
    refine ⟨hcons.listed_once user, fun pollId => ?_⟩
    rw [answers_getStakeInfo, hcons.listed_iff]
  · intro pollId user record hrecord
    rw [ask_getStakeInfo, unwrap_eq_ok] at hrecord
    have hok := hcons.record pollId user record hrecord
    exact ⟨hok.pollId_eq, hok.user_eq, answers_getPoll.mpr hok.poll_found⟩
  · intro pollId poll hpoll
    rw [ask_getPoll, unwrap_eq_ok] at hpoll
    have hmatch := hnumbered.poll_match pollId poll hpoll
    exact ⟨hnumbered.poll_id pollId poll hpoll, answers_getMatch.mpr hmatch, _,
      (ask_getMatchPolls _ _ _).mpr ⟨hmatch, rfl⟩, (hnumbered.listed _ _).mpr ⟨poll, hpoll, rfl⟩⟩
  · intro stats hstats pollId
    cases (Reply.ok.inj hstats : x.final.market.stats = stats)
    rw [answers_getPoll, hnumbered.poll_ids]
    omega
  · intro count hcount matchId
    cases (Reply.ok.inj hcount : x.final.market.nextMatchId.getD 1 - 1 = count)
    rw [answers_getMatch, answers_getMatchPolls, hnumbered.match_ids]
    omega
  · intro stats balance hstats hbalance
    cases (Reply.ok.inj hstats : x.final.market.stats = stats)
    obtain ⟨token, htoken, hanswer⟩ := (ask_getContractBalance _ _).mp hbalance
    rw [N.query_balance hanswer]
    have hbacked := balance_run x htoken
    have hfunds := directFunds_nonneg x token
    rw [hcons.locked]
    exact (le_add_of_nonneg_right hfunds).trans hbacked.ge
  · intro pollId hcancelled
    obtain ⟨oracleId, storage, horacle, hstorage, hstatus⟩ :=
      (ask_oraclePollStatus _ _ _).mp hcancelled
    refine query_eq_ok.mpr ⟨_, checkEmergencyEligible_true.mpr ⟨rfl, ?_⟩⟩
    exact ⟨oracleId, storage, horacle, hstorage, .inl hstatus⟩

end PredictX.Views
