import PredictX.ErrorReturns
import PredictX.Identifiers
import PredictX.OrderedChecks
import PredictX.Refunds
import PredictX.Settlement

/-!
The checks of each entry point, as a table, and that the market's reply is the
first of them to fail.  A check of the source that no reachable state fails is
not in the table.
-/

namespace PredictX.Verdicts

open PredictX.Bookkeeping
open PredictX.CommittedCalls
open PredictX.ErrorReturns
open PredictX.FiniteStore
open PredictX.Footprints
open PredictX.HostCall
open PredictX.HostCall.Call
open PredictX.Identifiers
open PredictX.MarketStorage
open PredictX.Matches
open PredictX.OrderedChecks
open PredictX.PredictionMarket
open PredictX.Refunds
open PredictX.Settlement
open PredictX.SharedTypes
open PredictX.SorobanHost
open PredictX.Staking
open PredictX.System
open PredictX.TokenContracts
open PredictX.TokenUtils
open PredictX.VotingOracle

variable {N : Network}

section Table

variable (signatures : Signatures N) (w : World N)

def lacks (signer : Address) : Bool := !signatures.accepts N.market signer

def expired (time : ℕ) : Bool := decide (time ≤ w.now)

/-- The caller is compared with the admin before it signs. -/
def comparedAdmin (caller : Address) : List (Check PredictXError) :=
  [.error w.market.admin.isNone .notInitialized,
    .error (decide (w.market.admin ≠ some caller)) .unauthorized,
    .abort (lacks signatures caller)]

/-- The caller signs before it is compared with the admin. -/
def signedAdmin (caller : Address) : List (Check PredictXError) :=
  [.abort (lacks signatures caller), .error w.market.admin.isNone .notInitialized,
    .error (decide (w.market.admin ≠ some caller)) .unauthorized]

def notPaused : Check PredictXError :=
  .error w.market.isPaused .emergencyWithdrawNotAllowed

def undeployed (oracleId : Address) : Bool := (w.oracles.lookup oracleId).isNone

/-- The oracle has an admin, and takes the market's call for the admin's. -/
def obeys (oracleId : Address) : Bool :=
  (w.oracles.lookup oracleId).any fun storage =>
    storage.admin.any fun admin =>
      signatures.accepts oracleId admin || N.market == admin

def refusesPayment (staker : Address) (amount : ℤ) : Bool :=
  w.market.tokenAddress.any fun token =>
    (N.transfer w.tokens token (signatures.accepts token staker) staker N.market amount).isNone

/-- The token's error, read as one of the market's. -/
def paymentError (staker : Address) (amount : ℤ) : Option PredictXError :=
  w.market.tokenAddress.bind fun token =>
    (N.transferError w.tokens token (signatures.accepts token staker) staker N.market
      amount).bind PredictXError.ofCode

def refusesRefund (user : Address) (amount : ℤ) : Bool :=
  w.market.tokenAddress.any fun token =>
    (N.transfer w.tokens token true N.market user amount).isNone

def refundError (user : Address) (amount : ℤ) : Option PredictXError :=
  w.market.tokenAddress.bind fun token =>
    (N.transferError w.tokens token true N.market user amount).bind PredictXError.ofCode

/-- The additions of a stake, in the order in which they are made. -/
def stakeSums (poll : Poll) (amount : ℤ) (side : StakeSide) : List (Check PredictXError) :=
  [.abort (decide (¬ InI128 (poolOnSide poll side + amount))),
    .abort (decide (2 ^ 32 ≤ count poll side + 1)),
    .abort (decide (¬ InI128 (w.market.stats.totalValueLocked + amount))),
    .abort (decide (2 ^ 64 ≤ w.market.stats.totalStakesPlaced + 1))]

/-- The checks of a stake once its poll is found. -/
def pollChecks (staker : Address) (pollId : ℕ) (amount : ℤ) (side : StakeSide) (poll : Poll) :
    List (Check PredictXError) :=
  .error (expired w poll.lockTime) .pollLocked ::
  .error (decide ((pollId, staker) ∈ w.market.hasStaked)) .alreadyStaked ::
  .callee (refusesPayment signatures w staker amount) (paymentError signatures w staker amount) ::
  stakeSums w poll amount side

def checks : MarketOp → List (Check PredictXError)
  | .initializeMarket admin _ _ _ _ =>
      [.error w.market.admin.isSome .alreadyInitialized, .abort (lacks signatures admin)]
  | .setOracle _ =>
      [notPaused w, .error w.market.admin.isNone .notInitialized,
        .abort (w.market.admin.any (lacks signatures))]
  | .pause caller | .unpause caller => comparedAdmin signatures w caller
  | .cancelPoll caller _ =>
      notPaused w :: comparedAdmin signatures w caller ++
        [.abort (w.market.votingOracle.any (undeployed w)),
          .callee (w.market.votingOracle.any fun oracleId =>
            (w.oracles.lookup oracleId).any (·.admin.isNone)) (some .notInitialized),
          .abort (w.market.votingOracle.any fun oracleId => !obeys signatures w oracleId)]
  | .emergencyWithdraw user pollId =>
      [.abort (lacks signatures user),
        .error (w.market.hasEmergencyClaimed pollId user) .alreadyClaimed,
        .error w.market.votingOracle.isNone .notInitialized,
        .abort (w.market.votingOracle.any (undeployed w)),
        .error (w.market.votingOracle.any fun oracleId =>
          (w.oracles.lookup oracleId).any fun storage =>
            !decide (Refundable storage pollId w.now)) .emergencyWithdrawNotAllowed,
        .error (w.market.stakes.lookup (pollId, user)).isNone .notStaker,
        .callee (refusesRefund w user (amountAt w.market (pollId, user)))
          (refundError w user (amountAt w.market (pollId, user)))]
  | .createPoll creator matchId _ _ lockTime =>
      [notPaused w, .abort (lacks signatures creator),
        .error (w.market.matchRecords.lookup matchId).isNone .matchNotFound,
        .error (expired w lockTime) .invalidLockTime,
        .error (decide (maxPollsPerMatch ≤ (pollList w.market matchId).length))
          .maxPollsPerMatchReached,
        .abort (decide (2 ^ 64 ≤ w.market.nextPollId.getD 1 + 1))]
  | .stake staker pollId amount side =>
      [.abort (lacks signatures staker), notPaused w,
        .error (decide (amount ≤ 0)) .stakeAmountZero,
        .error (decide (amount < minStakeAmount)) .stakeBelowMinimum,
        .error (w.market.polls.lookup pollId).isNone .pollNotFound] ++
        ((w.market.polls.lookup pollId).map
          (pollChecks signatures w staker pollId amount side)).getD []
  | .createMatch caller _ _ _ _ kickoffTime =>
      signedAdmin signatures w caller ++
        [.error (expired w kickoffTime) .invalidLockTime,
          .abort (decide (2 ^ 64 ≤ w.market.nextMatchId.getD 1 + 1))]
  | .updateMatch caller matchId _ _ _ _ kickoffTime =>
      signedAdmin signatures w caller ++
        [.error (w.market.matchRecords.lookup matchId).isNone .matchNotFound,
          .error ((w.market.matchRecords.lookup matchId).any (expired w ·.kickoffTime))
            .matchAlreadyStarted,
          .error (kickoffTime.any (expired w)) .invalidLockTime]
  | .finishMatch caller matchId =>
      signedAdmin signatures w caller ++
        [.error (w.market.matchRecords.lookup matchId).isNone .matchNotFound]

/-- What a call that passes its checks returns. -/
def granted : MarketOp → Value
  | .emergencyWithdraw user pollId => .amount (amountAt w.market (pollId, user))
  | .createPoll .. => .id (w.market.nextPollId.getD 1)
  | .stake staker pollId amount side => .stake ⟨staker, pollId, amount, side, false, w.now⟩
  | .createMatch .. => .id (w.market.nextMatchId.getD 1)
  | .updateMatch _ matchId homeTeam awayTeam league venue kickoffTime =>
      ((w.market.matchRecords.lookup matchId).map fun m =>
        Value.matchRecord (revised m homeTeam awayTeam league venue kickoffTime)).getD .unit
  | _ => .unit

end Table

section Rules

variable {w : World N} {signatures : Signatures N} {α β : Type} {g : α → β} {value : β}
  {rest : List (Check PredictXError)}

theorem reply_check_requireAuth {signer : Address} {f : Unit → MarketCall N α}
    (h : signatures.accepts N.market signer = true →
      (f () (callEnv N.market signatures w.now) w).reply.map g = verdict value rest) :
    ((requireAuth signer >>= f) (callEnv N.market signatures w.now) w).reply.map g =
      verdict value (.abort (lacks signatures signer) :: rest) := by
  have hsigned (hlacks : lacks signatures signer = false) :
      signatures.accepts N.market signer = true := by
    simpa [lacks] using hlacks
  refine reply_check (a := ()) (t := w) (fun hlacks => reply_requireAuth ?_)
    (fun hlacks => requireAuth_returns.mpr ⟨callEnv_authorises.trans (hsigned hlacks), rfl⟩)
    (fun hlacks => h (hsigned hlacks))
  rw [callEnv_authorises]
  simpa [lacks, Check.fails] using hlacks

variable {env : Env}

theorem reply_check_getAdmin {f : Address → MarketCall N α}
    (h : ∀ admin, w.market.admin = some admin →
      (f admin env w).reply.map g = verdict value rest) :
    ((MarketStorage.getAdmin >>= f) env w).reply.map g =
      verdict value (.error w.market.admin.isNone .notInitialized :: rest) := by
  cases hadmin : w.market.admin with
  | none =>
      have hnone : (MarketStorage.getAdmin env w : Outcome _ _ _).reply =
          .error .notInitialized := by
        rw [MarketStorage.getAdmin, reply_bind (load_returns.mpr ⟨rfl, rfl⟩), hadmin]
        rfl
      rw [reply_bind_error hnone]
      rfl
  | some admin => exact reply_pass (getAdmin_returns.mpr ⟨hadmin, rfl⟩) (h admin hadmin)

theorem reply_check_getOracle {f : Address → MarketCall N α}
    (h : ∀ oracleId, w.market.votingOracle = some oracleId →
      (f oracleId env w).reply.map g = verdict value rest) :
    ((getOracle >>= f) env w).reply.map g =
      verdict value (.error w.market.votingOracle.isNone .notInitialized :: rest) := by
  cases horacle : w.market.votingOracle with
  | none =>
      rw [reply_bind_error (reply_getOracle horacle)]
      rfl
  | some oracleId => exact reply_pass (getOracle_returns.mpr ⟨horacle, rfl⟩) (h oracleId horacle)

theorem reply_check_ensureNotPaused {f : Unit → MarketCall N α}
    (h : w.market.isPaused = false → (f () env w).reply.map g = verdict value rest) :
    ((ensureNotPaused >>= f) env w).reply.map g = verdict value (notPaused w :: rest) :=
  reply_check (fun hpaused => reply_ensureNotPaused hpaused)
    (fun hopen => ensureNotPaused_returns.mpr ⟨hopen, rfl⟩) h

theorem reply_set {update : Market → Market} {f : Unit → MarketCall N α}
    (h : (f () env { w with market := update w.market }).reply.map g = verdict value rest) :
    ((setMarket update >>= f) env w).reply.map g = verdict value rest :=
  reply_pass (setMarket_returns.mpr rfl) h

theorem reply_check_u64 {n : ℕ} {f : ℕ → MarketCall N α}
    (h : n < 2 ^ 64 → (f n env w).reply.map g = verdict value rest) :
    ((checkedU64 n >>= f) env w).reply.map g =
      verdict value (.abort (decide (2 ^ 64 ≤ n)) :: rest) := by
  rw [checkedU64, bind_assoc]
  refine reply_check_require (decide_eq_true_iff.trans not_lt.symm) ?_
  intro hfits
  exact reply_pass (pure_returns.mpr ⟨rfl, rfl⟩) (h hfits)

theorem reply_check_u32 {n : ℕ} {f : ℕ → MarketCall N α}
    (h : n < 2 ^ 32 → (f n env w).reply.map g = verdict value rest) :
    ((checkedU32 n >>= f) env w).reply.map g =
      verdict value (.abort (decide (2 ^ 32 ≤ n)) :: rest) := by
  rw [checkedU32, bind_assoc]
  refine reply_check_require (decide_eq_true_iff.trans not_lt.symm) ?_
  intro hfits
  exact reply_pass (pure_returns.mpr ⟨rfl, rfl⟩) (h hfits)

theorem reply_check_i128 {n : ℤ} {f : ℤ → MarketCall N α}
    (h : InI128 n → (f n env w).reply.map g = verdict value rest) :
    ((checkedI128 n >>= f) env w).reply.map g =
      verdict value (.abort (decide (¬ InI128 n)) :: rest) := by
  rw [checkedI128, bind_assoc]
  refine reply_check_require decide_eq_true_iff ?_
  intro hfits
  exact reply_pass (pure_returns.mpr ⟨rfl, rfl⟩) (h hfits)

theorem reply_check_admin {caller : Address} {f : Unit → MarketCall N α}
    (h : w.market.admin = some caller → (f () env w).reply.map g = verdict value rest) :
    ((MarketStorage.getAdmin >>= fun stored =>
        failIf (caller ≠ stored) .unauthorized >>= f) env w).reply.map g =
      verdict value (.error w.market.admin.isNone .notInitialized ::
        .error (decide (w.market.admin ≠ some caller)) .unauthorized :: rest) := by
  apply reply_check_getAdmin
  intro admin hadmin
  apply reply_check_failIf
  · rw [decide_eq_true_iff, hadmin, ne_eq, Option.some.injEq, @eq_comm _ admin]
  · intro hsame
    exact h (by rw [hadmin, not_not.mp hsame])

theorem reply_comparedAdmin {caller : Address} {f : Unit → MarketCall N α}
    (h : w.market.admin = some caller →
      (f () (callEnv N.market signatures w.now) w).reply.map g = verdict value rest) :
    ((MarketStorage.getAdmin >>= fun stored =>
        failIf (caller ≠ stored) .unauthorized >>= fun _ => requireAuth caller >>= f)
          (callEnv N.market signatures w.now) w).reply.map g =
      verdict value (comparedAdmin signatures w caller ++ rest) := by
  apply reply_check_admin
  intro hadmin
  apply reply_check_requireAuth
  intro hsigned
  exact h hadmin

theorem reply_signedAdmin {caller : Address} {f : Unit → MarketCall N α}
    (h : w.market.admin = some caller →
      (f () (callEnv N.market signatures w.now) w).reply.map g = verdict value rest) :
    ((requireAdmin caller >>= f) (callEnv N.market signatures w.now) w).reply.map g =
      verdict value (signedAdmin signatures w caller ++ rest) := by
  rw [requireAdmin, bind_assoc]
  apply reply_check_requireAuth
  intro hsigned
  rw [bind_assoc]
  exact reply_check_admin h

theorem obeys_eq {oracleId admin : Address} {storage : OracleStorage}
    (hdeployed : w.oracles.lookup oracleId = some storage) (hadmin : storage.admin = some admin) :
    obeys signatures w oracleId =
      ((callEnv N.market signatures w.now).callee oracleId).authorises admin := by
  rw [obeys, hdeployed, Option.any_some, hadmin, Option.any_some]
  simp [Env.authorises, Env.callee, callEnv]

theorem reply_check_setPollStatus {oracleId : Address} {pollId : ℕ} {status : PollStatus}
    {f : Unit → MarketCall N α}
    (h : ∀ w', (f () (callEnv N.market signatures w.now) w').reply.map g = .ok value) :
    ((callOracle oracleId (setPollStatus pollId status) >>= f) (callEnv N.market signatures w.now)
        w).reply.map g =
      verdict value [.abort (undeployed w oracleId),
        .callee ((w.oracles.lookup oracleId).any (·.admin.isNone)) (some .notInitialized),
        .abort (!obeys signatures w oracleId)] := by
  cases hdeployed : w.oracles.lookup oracleId with
  | none =>
      rw [reply_bind_trap (reply_callOracle hdeployed), undeployed, hdeployed]
      rfl
  | some storage =>
      rw [undeployed, hdeployed]
      cases hadmin : storage.admin with
      | none =>
          rw [Option.any_some, hadmin]
          rw [reply_bind_trap (reply_callOracle_error hdeployed
            (reply_setPollStatus_uninitialized hadmin))]
          rfl
      | some admin =>
          rw [Option.any_some, hadmin, obeys_eq hdeployed hadmin]
          cases hauthorised :
              ((callEnv N.market signatures w.now).callee oracleId).authorises admin with
          | false =>
              rw [reply_bind_trap (reply_callOracle_trap hdeployed
                (reply_setPollStatus_unsigned hadmin hauthorised))]
              rfl
          | true =>
              exact reply_pass (callOracle_returns.mpr ⟨storage, _, hdeployed,
                setPollStatus_returns.mpr ⟨admin, hadmin, hauthorised, rfl⟩, rfl⟩) (h _)

theorem reply_check_transferFrom {token dst : Address} {amount : ℤ} {f : Unit → MarketCall N α}
    (htoken : w.market.tokenAddress = some token)
    (h : ∀ tokens, N.transfer w.tokens token true N.market dst amount = some tokens →
      (f () (callEnv N.market signatures w.now) { w with tokens }).reply.map g =
        verdict value rest) :
    ((transferFromContract dst amount >>= f) (callEnv N.market signatures w.now) w).reply.map g =
      verdict value (.callee (refusesRefund w dst amount) (refundError w dst amount) :: rest) := by
  rw [refusesRefund, refundError, htoken]
  refine reply_check_callee (fun hrefused => ?_) ?_ h
  · exact reply_transferFromContract_refused htoken hrefused
  · intro tokens htransfer
    exact transferFromContract_returns.mpr ⟨token, tokens, htoken, htransfer, rfl⟩

/-- The token hears the staker's own signature: the market makes the call. -/
theorem reply_check_transferTo {token staker : Address} {amount : ℤ} {f : Unit → MarketCall N α}
    (hother : staker ≠ N.market) (htoken : w.market.tokenAddress = some token)
    (h : ∀ tokens, N.transfer w.tokens token (signatures.accepts token staker) staker N.market
        amount = some tokens →
      (f () (callEnv N.market signatures w.now) { w with tokens }).reply.map g =
        verdict value rest) :
    ((transferToContract staker amount >>= f) (callEnv N.market signatures w.now) w).reply.map g =
      verdict value (.callee (refusesPayment signatures w staker amount)
        (paymentError signatures w staker amount) :: rest) := by
  have hauthorises : ((callEnv N.market signatures w.now).callee token).authorises staker =
      signatures.accepts token staker := by
    simp [Env.authorises, Env.callee, callEnv, Ne.symm hother]
  rw [refusesPayment, paymentError, htoken, Option.any_some, Option.bind_some]
  rw [← hauthorises] at h ⊢
  refine reply_check_callee (fun hrefused => ?_) ?_ h
  · exact reply_transferToContract_refused htoken hrefused
  · intro tokens htransfer
    exact transferToContract_returns.mpr ⟨token, tokens, htoken, htransfer, rfl⟩

theorem token_of_poll (hcons : Consistent N.market w.market) {pollId : ℕ} {poll : Poll}
    (hpoll : w.market.polls.lookup pollId = some poll) :
    ∃ token, w.market.tokenAddress = some token := by
  apply Option.ne_none_iff_exists'.mp
  intro hnone
  rw [(hcons.unconfigured (hcons.configured.mp hnone)).2] at hpoll
  simp at hpoll

theorem reply_check_poolTotals {poll : Poll} {amount : ℤ} {side : StakeSide}
    {f : Poll → MarketCall N α}
    (h : (f (credited poll amount side) env w).reply.map g = verdict value rest) :
    ((updatePoolTotals poll amount side >>= f) env w).reply.map g =
      verdict value (.abort (decide (¬ InI128 (poolOnSide poll side + amount))) ::
        .abort (decide (2 ^ 32 ≤ count poll side + 1)) :: rest) := by
  cases side with
  | yes | no =>
      rw [updatePoolTotals, bind_assoc]
      apply reply_check_i128
      intro _
      rw [bind_assoc]
      apply reply_check_u32
      intro _
      exact reply_pass (pure_returns.mpr ⟨rfl, rfl⟩) h

end Rules

section Operations

variable (w : World N) (signatures : Signatures N)

theorem verdict_initializeMarket (admin votingOracle tokenAddress treasuryAddress : Address)
    (platformFeeBps : ℕ) :
    (PredictionMarket.initializeMarket admin votingOracle tokenAddress treasuryAddress
        platformFeeBps (callEnv N.market signatures w.now) w).reply.map (fun _ => Value.unit) =
      verdict .unit (checks signatures w
        (.initializeMarket admin votingOracle tokenAddress treasuryAddress platformFeeBps)) := by
  apply reply_pass (load_returns.mpr ⟨rfl, rfl⟩)
  apply reply_check_failIf Iff.rfl
  intro _
  apply reply_check_requireAuth
  intro _
  rfl

theorem verdict_setOracle (votingOracle : Address) :
    (PredictionMarket.setOracle votingOracle (callEnv N.market signatures w.now) w).reply.map
        (fun _ => Value.unit) = verdict .unit (checks signatures w (.setOracle votingOracle)) := by
  apply reply_check_ensureNotPaused
  intro _
  apply reply_check_getAdmin
  intro admin hadmin
  rw [hadmin]
  apply reply_check_requireAuth
  intro _
  rfl

theorem verdict_setPaused (caller : Address) (paused : Bool) (event : Event) :
    (setPaused caller paused event (callEnv N.market signatures w.now) w).reply.map
        (fun _ => Value.unit) = verdict .unit (comparedAdmin signatures w caller) := by
  rw [← List.append_nil (comparedAdmin signatures w caller)]
  apply reply_comparedAdmin
  intro _
  rfl

theorem verdict_finishMatch (caller : Address) (matchId : ℕ) :
    (Matches.finishMatch caller matchId (callEnv N.market signatures w.now) w).reply.map
        (fun _ => Value.unit) =
      verdict .unit (checks signatures w (.finishMatch caller matchId)) := by
  apply reply_signedAdmin
  intro _
  apply reply_pass (load_returns.mpr ⟨rfl, rfl⟩)
  apply reply_check_okOr
  intro m _
  rfl

theorem verdict_createMatch (caller : Address) (homeTeam awayTeam league venue : String)
    (kickoffTime : ℕ) :
    (Matches.createMatch caller homeTeam awayTeam league venue kickoffTime
        (callEnv N.market signatures w.now) w).reply.map Value.id =
      verdict (.id (w.market.nextMatchId.getD 1))
        (checks signatures w (.createMatch caller homeTeam awayTeam league venue kickoffTime)) := by
  apply reply_signedAdmin
  intro _
  apply reply_pass (timestamp_returns.mpr ⟨rfl, rfl⟩)
  apply reply_check_failIf decide_eq_true_iff
  intro _
  apply reply_pass (load_returns.mpr ⟨rfl, rfl⟩)
  apply reply_set
  apply reply_set
  apply reply_check_u64
  intro _
  rfl

theorem verdict_updateMatch (caller : Address) (matchId : ℕ)
    (homeTeam awayTeam league venue : Option String) (kickoffTime : Option ℕ) :
    (Matches.updateMatch caller matchId homeTeam awayTeam league venue kickoffTime
        (callEnv N.market signatures w.now) w).reply.map Value.matchRecord =
      verdict
        (granted w (.updateMatch caller matchId homeTeam awayTeam league venue kickoffTime))
        (checks signatures w
          (.updateMatch caller matchId homeTeam awayTeam league venue kickoffTime)) := by
  apply reply_signedAdmin
  intro _
  apply reply_pass (load_returns.mpr ⟨rfl, rfl⟩)
  apply reply_check_okOr
  intro m hm
  apply reply_pass (timestamp_returns.mpr ⟨rfl, rfl⟩)
  simp only [granted]
  rw [hm]
  apply reply_check_failIf decide_eq_true_iff
  intro _
  cases kickoffTime with
  | none => rfl
  | some kt =>
      rw [reschedule, bind_assoc]
      apply reply_check_failIf decide_eq_true_iff
      intro _
      rfl

theorem verdict_createPoll (hcreated :
      w.market.stats.totalPollsCreated + 1 = w.market.nextPollId.getD 1)
    (creator : Address) (matchId : ℕ) (question : String) (category : PollCategory)
    (lockTime : ℕ) :
    (PredictionMarket.createPoll creator matchId question category lockTime
        (callEnv N.market signatures w.now) w).reply.map Value.id =
      verdict (.id (w.market.nextPollId.getD 1))
        (checks signatures w (.createPoll creator matchId question category lockTime)) := by
  apply reply_check_ensureNotPaused
  intro _
  apply reply_check_requireAuth
  intro _
  apply reply_pass (load_returns.mpr ⟨rfl, rfl⟩)
  apply reply_check_okOr
  intro m _
  apply reply_pass (timestamp_returns.mpr ⟨rfl, rfl⟩)
  apply reply_check_failIf decide_eq_true_iff
  intro _
  apply reply_pass (load_returns.mpr ⟨rfl, rfl⟩)
  apply reply_check_failIf decide_eq_true_iff
  intro _
  apply reply_pass (load_returns.mpr ⟨rfl, rfl⟩)
  apply reply_set
  apply reply_set
  apply reply_check_u64
  intro hid
  apply reply_set
  apply reply_pass (getPlatformStats_returns.mpr ⟨rfl, rfl⟩)
  -- The number of polls stays below the next id, which was just checked.
  have hcount : w.market.stats.totalPollsCreated + 1 < 2 ^ 64 := by omega
  apply reply_pass (checkedU64_returns.mpr ⟨hcount, rfl, rfl⟩)
  rfl

theorem verdict_cancelPoll (horacle : w.market.votingOracle = none → w.market.admin = none)
    (caller : Address) (pollId : ℕ) :
    (PredictionMarket.cancelPoll caller pollId (callEnv N.market signatures w.now) w).reply.map
        (fun _ => Value.unit) =
      verdict .unit (checks signatures w (.cancelPoll caller pollId)) := by
  apply reply_check_ensureNotPaused
  intro _
  apply reply_comparedAdmin
  intro hadmin
  cases hconfigured : w.market.votingOracle with
  | none =>
      rw [horacle hconfigured] at hadmin
      exact absurd hadmin (by simp)
  | some oracleId =>
      apply reply_pass (getOracle_returns.mpr ⟨hconfigured, rfl⟩)
      exact reply_check_setPollStatus fun _ => rfl

theorem verdict_emergencyWithdraw {w : World N} (hcons : Consistent N.market w.market)
    (signatures : Signatures N) (user : Address) (pollId : ℕ) :
    (PredictionMarket.emergencyWithdraw user pollId (callEnv N.market signatures w.now)
        w).reply.map Value.amount =
      verdict (.amount (amountAt w.market (pollId, user)))
        (checks signatures w (.emergencyWithdraw user pollId)) := by
  rw [checks]
  apply reply_check_requireAuth
  intro _
  apply reply_pass (load_returns.mpr ⟨rfl, rfl⟩)
  apply reply_check_failIf Iff.rfl
  intro hclaimed
  apply reply_check_getOracle
  intro oracleId horacle
  rw [horacle]
  cases hdeployed : w.oracles.lookup oracleId with
  | none =>
      refine reply_check (a := false) (t := w)
        (fun _ => reply_bind_trap (reply_callOracle hdeployed)) ?_ ?_
      · simp [Check.fails, undeployed, hdeployed]
      · simp [Check.fails, undeployed, hdeployed]
  | some storage =>
      refine reply_check ?_ (fun _ => eligible_returns.mpr ⟨storage, hdeployed, rfl, rfl⟩) ?_
      · simp [Check.fails, undeployed, hdeployed]
      · intro _
        apply reply_check_failIf
        · rw [Option.any_some, hdeployed, Option.any_some, Bool.not_eq_true',
            decide_eq_false_iff_not]
          exact decide_eq_false_iff_not.symm
        · intro _
          apply reply_pass (load_returns.mpr ⟨rfl, rfl⟩)
          apply reply_check_okOr
          intro record hrecord
          obtain ⟨token, htoken⟩ := token_of_stake hcons hrecord
          have hamount : amountAt w.market (pollId, user) = record.amount := by
            simp [amountAt, hrecord]
          rw [hamount]
          apply reply_set
          refine reply_check_transferFrom htoken ?_
          intro tokens _
          apply reply_pass (getPlatformStats_returns.mpr ⟨rfl, rfl⟩)
          have hfits := hcons.refund_fits hrecord (Bool.eq_false_iff.mpr hclaimed)
          apply reply_pass (checkedI128_returns.mpr ⟨hfits, rfl, rfl⟩)
          rfl

theorem verdict_stake {w : World N} (hcons : Consistent N.market w.market)
    (hactive : ∀ pollId poll, w.market.polls.lookup pollId = some poll → poll.status = .active)
    (signatures : Signatures N) (staker : Address) (pollId : ℕ) (amount : ℤ) (side : StakeSide) :
    (Staking.stake staker pollId amount side (callEnv N.market signatures w.now) w).reply.map
        Value.stake =
      verdict (.stake ⟨staker, pollId, amount, side, false, w.now⟩)
        (checks signatures w (.stake staker pollId amount side)) := by
  rw [checks]
  apply reply_check_requireAuth
  intro hsigned
  apply reply_check_ensureNotPaused
  intro _
  apply reply_check_failIf decide_eq_true_iff
  intro _
  apply reply_check_failIf decide_eq_true_iff
  intro _
  apply reply_pass (load_returns.mpr ⟨rfl, rfl⟩)
  apply reply_check_okOr
  intro poll hpoll
  rw [hpoll]
  -- The status the market keeps never changes, so this check always passes.
  refine reply_pass (a := ()) (failIf_returns.mpr ⟨not_not.mpr (hactive pollId poll hpoll), rfl⟩) ?_
  apply reply_pass (timestamp_returns.mpr ⟨rfl, rfl⟩)
  apply reply_check_failIf decide_eq_true_iff
  intro _
  apply reply_pass (load_returns.mpr ⟨rfl, rfl⟩)
  apply reply_check_failIf Iff.rfl
  intro _
  obtain ⟨token, htoken⟩ := token_of_poll hcons hpoll
  have hother : staker ≠ N.market := by
    rintro rfl
    exact Bool.false_ne_true ((signatures.market_silent _).symm.trans hsigned)
  apply reply_check_transferTo hother htoken
  intro tokens _
  apply reply_set
  apply reply_set
  apply reply_check_poolTotals
  apply reply_set
  apply reply_pass (load_returns.mpr ⟨rfl, rfl⟩)
  apply reply_set
  apply reply_pass (getPlatformStats_returns.mpr ⟨rfl, rfl⟩)
  apply reply_check_i128
  intro _
  apply reply_check_u64
  intro _
  rfl

end Operations

theorem step_verdict {w : World N} (hcons : Consistent N.market w.market)
    (hnumbered : Numbered w.market) (hopen : Unsettled w.market) (signatures : Signatures N)
    (op : MarketOp) :
    (step w (.market signatures op)).1 = verdict (granted w op) (checks signatures w op) := by
  rw [step, commit_fst]
  cases op with
  | initializeMarket =>
      exact (reply_map _).trans (verdict_initializeMarket w signatures _ _ _ _ _)
  | setOracle => exact (reply_map _).trans (verdict_setOracle w signatures _)
  | pause | unpause => exact (reply_map _).trans (verdict_setPaused w signatures _ _ _)
  | cancelPoll =>
      exact (reply_map _).trans (verdict_cancelPoll w signatures hcons.oracle_configured.mp _ _)
  | emergencyWithdraw =>
      exact (reply_map _).trans (verdict_emergencyWithdraw hcons signatures _ _)
  | createPoll =>
      exact (reply_map _).trans (verdict_createPoll w signatures hnumbered.created _ _ _ _ _)
  | stake =>
      have hactive := fun pollId poll hpoll => (hopen.polls pollId poll hpoll).active
      exact (reply_map _).trans (verdict_stake hcons hactive signatures _ _ _ _)
  | createMatch => exact (reply_map _).trans (verdict_createMatch w signatures _ _ _ _ _ _)
  | updateMatch => exact (reply_map _).trans (verdict_updateMatch w signatures _ _ _ _ _ _ _)
  | finishMatch => exact (reply_map _).trans (verdict_finishMatch w signatures _ _)

/-- In every reachable state the market answers every call with the refusal of
the first check in the table that fails, and with the value of the table if
none does. -/
theorem market_verdict (x : Execution N) (signatures : Signatures N) (op : MarketOp) :
    (step x.final (.market signatures op)).1 =
      verdict (granted x.final op) (checks signatures x.final op) :=
  step_verdict (consistent_run x) (numbered_run x) (unsettled_run x) signatures op

end PredictX.Verdicts
