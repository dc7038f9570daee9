import PredictX.RelatedStates
import PredictX.Views

/-!
What betting does not depend on.  No call that moves tokens or decides about a
poll looks at the fee, at the treasury, at anything of a match but its id, or
at which of the statuses between active and resolved an oracle gives a poll.
-/

namespace PredictX.BettingIndependence

open PredictX.CommittedCalls
open PredictX.FiniteStore
open PredictX.HostCall
open PredictX.HostCall.Call
open PredictX.LabelledRuns
open PredictX.MarketStorage
open PredictX.Matches
open PredictX.PredictionMarket
open PredictX.RelatedStates
open PredictX.SharedTypes
open PredictX.SorobanHost
open PredictX.Staking
open PredictX.System
open PredictX.TokenContracts
open PredictX.TokenUtils
open PredictX.Views
open PredictX.VotingOracle

variable {N : Network}

/-- The event tells of more than a changed match. -/
def betting : Event → Bool
  | .matchUpdated .. | .matchFinished _ => false
  | _ => true

/-- The statuses that never make a poll refundable count as one. -/
def muted : PollStatus → PollStatus
  | .voting | .adminReview | .resolved => .active
  | status => status

structure RecordAlike (r r' : StoredPollStatus) : Prop where
  status : muted r'.status = muted r.status
  updatedAt : r'.updatedAt = r.updatedAt

structure OracleAlike (s s' : OracleStorage) : Prop where
  admin : s'.admin = s.admin
  records : ∀ pollId, Option.Rel RecordAlike (s.pollStatus.lookup pollId)
    (s'.pollStatus.lookup pollId)

/-- The market with another treasury, another fee and other match records. -/
def variedMarket (m : Market) (treasury : Option Address) (fee : Option ℕ)
    (records : Store ℕ Match) : Market :=
  { m with treasuryAddress := treasury, platformFeeBps := fee, matchRecords := records }

def varied (w : World N) (treasury : Option Address) (fee : Option ℕ)
    (records : Store ℕ Match) (oracles : Store Address OracleStorage) (events : List Event) :
    World N :=
  { w with
    market := variedMarket w.market treasury fee records
    oracles := oracles
    events := events }

/-- Two ledgers that differ at most in the treasury, the fee, the records of
the matches, whose ids are the same, the oracles' muted statuses, and the
events about changed matches. -/
inductive SameBets (w : World N) : World N → Prop where
  | intro (treasury : Option Address) (fee : Option ℕ) (records : Store ℕ Match)
      (oracles : Store Address OracleStorage) (events : List Event)
      (ids : ∀ matchId, matchId ∈ records ↔ matchId ∈ w.market.matchRecords)
      (alike : ∀ oracleId, Option.Rel OracleAlike (w.oracles.lookup oracleId)
        (oracles.lookup oracleId))
      (journal : events.filter betting = w.events.filter betting) :
      SameBets w (varied w treasury fee records oracles events)

/-- The action of the other run, which has no changes of matches, is
initialized with another treasury and fee, and has the oracles' statuses muted. -/
def counterpart (treasury : Address) (fee : ℕ) : Action N → Option (Action N)
  | .market signatures (.initializeMarket admin votingOracle tokenAddress _ _) =>
      some (.market signatures (.initializeMarket admin votingOracle tokenAddress treasury fee))
  | .market _ (.updateMatch ..) | .market _ (.finishMatch ..) => none
  | .oracle signatures oracleId (.setPollStatus pollId status) =>
      some (.oracle signatures oracleId (.setPollStatus pollId (muted status)))
  | a => some a

/-- The views that show what may differ. -/
def ShowsMore : View → Prop
  | .calculatePotentialWinnings .. | .getTreasuryAddress | .getPlatformFeeBps | .getMatch _
  | .oraclePollStatus _ => True
  | _ => False

section Oracles

theorem muted_muted (status : PollStatus) : muted (muted status) = muted status := by
  cases status <;> rfl

theorem eq_of_muted {status status' : PollStatus} (h : muted status' = muted status) :
    (status' = .cancelled ↔ status = .cancelled) ∧
      (status' = .disputed ↔ status = .disputed) ∧ (status' = .locked ↔ status = .locked) := by
  cases status <;> cases status' <;> simp_all [muted]

theorem OracleAlike.refl (s : OracleStorage) : OracleAlike s s where
  admin := rfl
  records := by
    intro pollId
    cases s.pollStatus.lookup pollId with
    | none => exact .none
    | some record => exact .some ⟨rfl, rfl⟩

theorem OracleAlike.recorded {s s' : OracleStorage} (h : OracleAlike s s') (pollId : ℕ)
    {record record' : StoredPollStatus} (hrecord : RecordAlike record record') :
    OracleAlike (s.recorded pollId record) (s'.recorded pollId record') where
  admin := h.admin
  records := by
    intro pollId'
    simp only [OracleStorage.recorded, lookup_insert_eq]
    split
    · exact .some hrecord
    · exact h.records pollId'

/-- The statuses that count are the ones that are not muted. -/
theorem OracleAlike.refundable {s s' : OracleStorage} (h : OracleAlike s s') (pollId now : ℕ) :
    Refundable s' pollId now ↔ Refundable s pollId now := by
  have hrecord := h.records pollId
  unfold Refundable OracleStorage.pollStatusOf OracleStorage.updatedAtOf
  generalize s.pollStatus.lookup pollId = record at hrecord
  generalize s'.pollStatus.lookup pollId = record' at hrecord
  cases hrecord with
  | none => rfl
  | @some r r' halike =>
      obtain ⟨hcancelled, hdisputed, hlocked⟩ := eq_of_muted halike.status
      simp only [Option.map_some, Option.getD_some, hcancelled, hdisputed, hlocked,
        halike.updatedAt]

theorem alike_cases {found found' : Option OracleStorage}
    (h : Option.Rel OracleAlike found found') : found = none ∧ found' = none ∨
      ∃ s s', found = some s ∧ found' = some s' ∧ OracleAlike s s' := by
  cases h with
  | none => exact .inl ⟨rfl, rfl⟩
  | some hs => exact .inr ⟨_, _, rfl, rfl, hs⟩

theorem alike_insert {oracles oracles' : Store Address OracleStorage}
    (h : ∀ oracleId, Option.Rel OracleAlike (oracles.lookup oracleId) (oracles'.lookup oracleId))
    {oracleId : Address} {s s' : OracleStorage} (hs : OracleAlike s s') (oracleId' : Address) :
    Option.Rel OracleAlike ((oracles.insert oracleId s).lookup oracleId')
      ((oracles'.insert oracleId s').lookup oracleId') := by
  rw [lookup_insert_eq, lookup_insert_eq]
  split
  · exact .some hs
  · exact h oracleId'

theorem agree_setPollStatus (pollId : ℕ) {status status' : PollStatus}
    (h : muted status' = muted status) :
    Agree OracleAlike (setPollStatus pollId status) (setPollStatus pollId status') := by
  refine agree_bind (agree_bind (agree_load fun _ _ hs => hs.admin.symm) fun admin =>
    agree_okOr _ _) fun admin => ?_
  refine agree_bind (agree_bind agree_context fun _ => agree_require _) fun _ => ?_
  refine agree_bind (agree_bind agree_context fun _ => agree_pure _) fun updatedAt => ?_
  exact agree_store fun _ _ hs => hs.recorded pollId ⟨h, rfl⟩

theorem agree_initializeOracle (admin : Address) :
    Agree OracleAlike (initializeOracle admin) (initializeOracle admin) := by
  refine agree_bind (agree_load fun _ _ hs => hs.admin.symm) fun stored => ?_
  refine agree_bind (agree_failIf _ _) fun _ => ?_
  refine agree_bind (agree_bind agree_context fun _ => agree_require _) fun _ => ?_
  exact agree_store fun _ _ hs => ⟨rfl, hs.records⟩

end Oracles

section Primitives

theorem agree_requireAuth (address : Address) :
    Agree SameBets (requireAuth address : MarketCall N Unit) (requireAuth address) :=
  agree_bind agree_context fun _ => agree_require _

theorem agree_timestamp : Agree SameBets (timestamp : MarketCall N ℕ) timestamp :=
  agree_bind agree_context fun _ => agree_pure _

theorem agree_checkedI128 (x : ℤ) :
    Agree SameBets (checkedI128 x : MarketCall N ℤ) (checkedI128 x) :=
  agree_bind (agree_require _) fun _ => agree_pure _

theorem agree_checkedU64 (n : ℕ) :
    Agree SameBets (checkedU64 n : MarketCall N ℕ) (checkedU64 n) :=
  agree_bind (agree_require _) fun _ => agree_pure _

theorem agree_checkedU32 (n : ℕ) :
    Agree SameBets (checkedU32 n : MarketCall N ℕ) (checkedU32 n) :=
  agree_bind (agree_require _) fun _ => agree_pure _

theorem agree_read {α : Type} {f : World N → α}
    (h : ∀ w treasury fee records oracles events,
      f (varied w treasury fee records oracles events) = f w) :
    Agree SameBets (load f : MarketCall N α) (load f) := by
  apply agree_load
  rintro w _ ⟨treasury, fee, records, oracles, events, -, -, -⟩
  exact (h w treasury fee records oracles events).symm

theorem agree_write {update : Market → Market}
    (h : ∀ m treasury fee records, update (variedMarket m treasury fee records) =
      variedMarket (update m) treasury fee records) :
    Agree SameBets (setMarket update : MarketCall N Unit) (setMarket update) := by
  have hrecords : ∀ m, (update m).matchRecords = m.matchRecords := by
    intro m
    have hsame := congrArg Market.matchRecords
      (h m m.treasuryAddress m.platformFeeBps m.matchRecords)
    exact hsame
  apply agree_store
  rintro w _ ⟨treasury, fee, records, oracles, events, hids, halike, hjournal⟩
  change SameBets _ { w with
    market := update (variedMarket w.market treasury fee records)
    oracles := oracles
    events := events }
  rw [h]
  refine ⟨treasury, fee, records, oracles, events, ?_, halike, hjournal⟩
  intro matchId
  rw [hrecords]
  exact hids matchId

theorem agree_publish (event : Event) :
    Agree SameBets (publish event : MarketCall N Unit) (publish event) := by
  apply agree_store
  rintro w _ ⟨treasury, fee, records, oracles, events, hids, halike, hjournal⟩
  refine ⟨treasury, fee, records, oracles, events ++ [event], hids, halike, ?_⟩
  rw [List.filter_append, List.filter_append, hjournal]

theorem agree_tokens (tokens : N.State) :
    Agree SameBets (store fun w => { w with tokens } : MarketCall N Unit)
      (store fun w => { w with tokens }) := by
  apply agree_store
  rintro w _ ⟨treasury, fee, records, oracles, events, hids, halike, hjournal⟩
  exact ⟨treasury, fee, records, oracles, events, hids, halike, hjournal⟩

theorem agree_getAdmin : Agree SameBets (MarketStorage.getAdmin : MarketCall N Address)
    MarketStorage.getAdmin :=
  agree_bind (agree_read fun _ _ _ _ _ _ => rfl) fun _ => agree_okOr _ _

theorem agree_getOracle : Agree SameBets (getOracle : MarketCall N Address) getOracle :=
  agree_bind (agree_read fun _ _ _ _ _ _ => rfl) fun _ => agree_okOr _ _

theorem agree_getTokenAddress :
    Agree SameBets (getTokenAddress : MarketCall N Address) getTokenAddress :=
  agree_bind (agree_read fun _ _ _ _ _ _ => rfl) fun _ => agree_okOr _ _

theorem agree_ensureNotPaused :
    Agree SameBets (ensureNotPaused : MarketCall N Unit) ensureNotPaused :=
  agree_bind (agree_read fun _ _ _ _ _ _ => rfl) fun _ => agree_failIf _ _

theorem agree_requireAdmin (caller : Address) :
    Agree SameBets (requireAdmin caller : MarketCall N Unit) (requireAdmin caller) :=
  agree_bind (agree_requireAuth caller) fun _ => agree_bind agree_getAdmin fun _ =>
    agree_failIf _ _

theorem agree_callOracle {α : Type} (oracleId : Address) {entry entry' : OracleCall α}
    (h : Agree OracleAlike entry entry') :
    Agree SameBets (callOracle oracleId entry : MarketCall N α) (callOracle oracleId entry') := by
  rintro env w _ ⟨treasury, fee, records, oracles, events, hids, halike, hjournal⟩
  unfold callOracle varied
  dsimp only
  rcases alike_cases (halike oracleId) with ⟨hnone, hnone'⟩ | ⟨s, s', hsome, hsome', hs⟩
  · rw [hnone, hnone']
    exact .trap
  · rw [hsome, hsome']
    have hout := h (env.callee oracleId) s s' hs
    dsimp only
    generalize entry (env.callee oracleId) s = out at hout
    generalize entry' (env.callee oracleId) s' = out' at hout
    cases hout with
    | ok ht =>
        exact .ok ⟨treasury, fee, records, _, events, hids, alike_insert halike ht, hjournal⟩
    | error | trap => exact .trap

theorem agree_tokenTransfer (token src dst : Address) (amount : ℤ) :
    Agree SameBets (tokenTransfer token src dst amount : MarketCall N Unit)
      (tokenTransfer token src dst amount) := by
  refine agree_bind agree_context fun env => ?_
  refine agree_bind (agree_read fun _ _ _ _ _ _ => rfl) fun tokens => ?_
  exact agree_bind (agree_orAbort _ _) fun tokens => agree_tokens tokens

theorem agree_eligible (oracleId : Address) (pollId : ℕ) :
    Agree SameBets (eligible oracleId pollId : MarketCall N Bool) (eligible oracleId pollId) := by
  apply agree_of_returns
  rintro env w _ ⟨treasury, fee, records, oracles, events, hids, halike, hjournal⟩
  rcases alike_cases (halike oracleId) with ⟨hnone, hnone'⟩ | ⟨s, s', hsome, hsome', hs⟩
  · exact .inr ⟨reply_bind_trap (reply_callOracle hnone),
      reply_bind_trap (reply_callOracle hnone')⟩
  · refine .inl ⟨decide (Refundable s pollId env.timestamp),
      eligible_returns.mpr ⟨s, hsome, rfl, rfl⟩, eligible_returns.mpr ⟨s', hsome', ?_, rfl⟩⟩
    exact decide_eq_decide.mpr (hs.refundable pollId env.timestamp).symm

theorem agree_checkEmergencyEligible (pollId : ℕ) :
    Agree SameBets (checkEmergencyEligible pollId : MarketCall N Bool)
      (checkEmergencyEligible pollId) := by
  apply agree_of_returns
  rintro env w _ ⟨treasury, fee, records, oracles, events, hids, halike, hjournal⟩
  cases horacle : w.market.votingOracle with
  | none =>
      have hfalse : ∀ w : World N, w.market.votingOracle = none →
          Returns (checkEmergencyEligible pollId : MarketCall N Bool) env w false w := by
        intro w hw
        simp [checkEmergencyEligible, bind_returns, load_returns, hw, pure_returns]
      exact .inl ⟨false, hfalse _ horacle, hfalse _ horacle⟩
  | some oracleId =>
      have htrap : ∀ w : World N, w.market.votingOracle = some oracleId →
          w.oracles.lookup oracleId = none →
          (checkEmergencyEligible pollId env w : Outcome _ _ Bool).reply = .trap none := by
        intro w hw hnone
        rw [checkEmergencyEligible, reply_bind (load_returns.mpr ⟨rfl, rfl⟩), hw]
        exact reply_bind_trap (reply_callOracle hnone)
      rcases alike_cases (halike oracleId) with ⟨hnone, hnone'⟩ | ⟨s, s', hsome, hsome', hs⟩
      · exact .inr ⟨htrap _ horacle hnone, htrap _ horacle hnone'⟩
      · have horacle' : (varied w treasury fee records oracles events).market.votingOracle =
            some oracleId := horacle
        refine .inl ⟨decide (Refundable s pollId env.timestamp),
          (checkEmergencyEligible_returns horacle hsome).mpr ⟨rfl, rfl⟩,
          (checkEmergencyEligible_returns horacle' hsome').mpr ⟨?_, rfl⟩⟩
        exact decide_eq_decide.mpr (hs.refundable pollId env.timestamp).symm

theorem agree_updatePoolTotals (poll : Poll) (amount : ℤ) (side : StakeSide) :
    Agree SameBets (updatePoolTotals poll amount side : MarketCall N Poll)
      (updatePoolTotals poll amount side) := by
  cases side with
  | yes | no =>
      refine agree_bind (agree_checkedI128 _) fun _ => ?_
      exact agree_bind (agree_checkedU32 _) fun _ => agree_pure _

end Primitives

section Calls

theorem agree_setOracle (votingOracle : Address) :
    Agree SameBets (PredictionMarket.setOracle votingOracle : MarketCall N Unit)
      (PredictionMarket.setOracle votingOracle) := by
  refine agree_bind agree_ensureNotPaused fun _ => ?_
  refine agree_bind agree_getAdmin fun admin => ?_
  refine agree_bind (agree_requireAuth admin) fun _ => ?_
  exact agree_write fun _ _ _ _ => rfl

theorem agree_setPaused (caller : Address) (paused : Bool) (event : Event) :
    Agree SameBets (setPaused caller paused event : MarketCall N Unit)
      (setPaused caller paused event) := by
  refine agree_bind agree_getAdmin fun admin => ?_
  refine agree_bind (agree_failIf _ _) fun _ => ?_
  refine agree_bind (agree_requireAuth caller) fun _ => ?_
  exact agree_bind (agree_write fun _ _ _ _ => rfl) fun _ => agree_publish event

theorem agree_cancelPoll (caller : Address) (pollId : ℕ) :
    Agree SameBets (PredictionMarket.cancelPoll caller pollId : MarketCall N Unit)
      (PredictionMarket.cancelPoll caller pollId) := by
  refine agree_bind agree_ensureNotPaused fun _ => ?_
  refine agree_bind agree_getAdmin fun admin => ?_
  refine agree_bind (agree_failIf _ _) fun _ => ?_
  refine agree_bind (agree_requireAuth caller) fun _ => ?_
  refine agree_bind agree_getOracle fun oracleId => ?_
  refine agree_bind (agree_callOracle oracleId (agree_setPollStatus pollId rfl)) fun _ => ?_
  exact agree_publish _

theorem agree_emergencyWithdraw (user : Address) (pollId : ℕ) :
    Agree SameBets (PredictionMarket.emergencyWithdraw user pollId : MarketCall N ℤ)
      (PredictionMarket.emergencyWithdraw user pollId) := by
  refine agree_bind (agree_requireAuth user) fun _ => ?_
  refine agree_bind (agree_read fun _ _ _ _ _ _ => rfl) fun claimed => ?_
  refine agree_bind (agree_failIf _ _) fun _ => ?_
  refine agree_bind agree_getOracle fun oracleId => ?_
  refine agree_bind (agree_eligible _ _) fun eligible => ?_
  refine agree_bind (agree_failIf _ _) fun _ => ?_
  refine agree_bind (agree_read fun _ _ _ _ _ _ => rfl) fun stored => ?_
  refine agree_bind (agree_okOr _ _) fun stake => ?_
  refine agree_bind (agree_write fun _ _ _ _ => rfl) fun _ => ?_
  refine agree_bind (agree_bind agree_getTokenAddress fun token =>
    agree_bind agree_context fun _ => agree_tokenTransfer _ _ _ _) fun _ => ?_
  refine agree_bind (agree_read fun _ _ _ _ _ _ => rfl) fun stats => ?_
  refine agree_bind (agree_checkedI128 _) fun totalValueLocked => ?_
  refine agree_bind (agree_write fun _ _ _ _ => rfl) fun _ => ?_
  exact agree_bind (agree_publish _) fun _ => agree_pure _

theorem agree_createPoll (creator : Address) (matchId : ℕ) (question : String)
    (category : PollCategory) (lockTime : ℕ) :
    Agree SameBets
      (PredictionMarket.createPoll creator matchId question category lockTime : MarketCall N ℕ)
      (PredictionMarket.createPoll creator matchId question category lockTime) := by
  refine agree_bind agree_ensureNotPaused fun _ => ?_
  refine agree_bind (agree_requireAuth creator) fun _ => ?_
  -- The poll's match has to exist; nothing else of it is looked at.
  refine agree_exists ?_ ?_
  · rintro w _ ⟨treasury, fee, records, oracles, events, hids, -, -⟩
    rw [Bool.eq_iff_iff, Finmap.lookup_isSome, Finmap.lookup_isSome]
    exact (hids matchId).symm
  refine agree_bind agree_timestamp fun now => ?_
  refine agree_bind (agree_failIf _ _) fun _ => ?_
  refine agree_bind (agree_read fun _ _ _ _ _ _ => rfl) fun polls => ?_
  refine agree_bind (agree_failIf _ _) fun _ => ?_
  refine agree_bind (agree_read fun _ _ _ _ _ _ => rfl) fun pollId => ?_
  refine agree_bind (agree_write fun _ _ _ _ => rfl) fun _ => ?_
  refine agree_bind (agree_write fun _ _ _ _ => rfl) fun _ => ?_
  refine agree_bind (agree_checkedU64 _) fun nextPollId => ?_
  refine agree_bind (agree_write fun _ _ _ _ => rfl) fun _ => ?_
  refine agree_bind (agree_read fun _ _ _ _ _ _ => rfl) fun stats => ?_
  refine agree_bind (agree_checkedU64 _) fun totalPollsCreated => ?_
  refine agree_bind (agree_write fun _ _ _ _ => rfl) fun _ => ?_
  exact agree_bind (agree_publish _) fun _ => agree_pure _

theorem agree_stake (staker : Address) (pollId : ℕ) (amount : ℤ) (side : StakeSide) :
    Agree SameBets (Staking.stake staker pollId amount side : MarketCall N Stake)
      (Staking.stake staker pollId amount side) := by
  refine agree_bind (agree_requireAuth staker) fun _ => ?_
  refine agree_bind agree_ensureNotPaused fun _ => ?_
  refine agree_bind (agree_failIf _ _) fun _ => ?_
  refine agree_bind (agree_failIf _ _) fun _ => ?_
  refine agree_bind (agree_read fun _ _ _ _ _ _ => rfl) fun stored => ?_
  refine agree_bind (agree_okOr _ _) fun poll => ?_
  refine agree_bind (agree_failIf _ _) fun _ => ?_
  refine agree_bind agree_timestamp fun now => ?_
  refine agree_bind (agree_failIf _ _) fun _ => ?_
  refine agree_bind (agree_read fun _ _ _ _ _ _ => rfl) fun placed => ?_
  refine agree_bind (agree_failIf _ _) fun _ => ?_
  refine agree_bind (agree_bind agree_getTokenAddress fun token =>
    agree_bind agree_context fun _ => agree_tokenTransfer _ _ _ _) fun _ => ?_
  refine agree_bind (agree_write fun _ _ _ _ => rfl) fun _ => ?_
  refine agree_bind (agree_write fun _ _ _ _ => rfl) fun _ => ?_
  refine agree_bind (agree_updatePoolTotals _ _ _) fun poll => ?_
  refine agree_bind (agree_write fun _ _ _ _ => rfl) fun _ => ?_
  refine agree_bind (agree_read fun _ _ _ _ _ _ => rfl) fun userStakes => ?_
  refine agree_bind (agree_write fun _ _ _ _ => rfl) fun _ => ?_
  refine agree_bind (agree_read fun _ _ _ _ _ _ => rfl) fun stats => ?_
  refine agree_bind (agree_checkedI128 _) fun totalValueLocked => ?_
  refine agree_bind (agree_checkedU64 _) fun totalStakesPlaced => ?_
  refine agree_bind (agree_write fun _ _ _ _ => rfl) fun _ => ?_
  exact agree_bind (agree_publish _) fun _ => agree_pure _

theorem agree_createMatch (caller : Address) (homeTeam awayTeam league venue : String)
    (kickoffTime : ℕ) :
    Agree SameBets
      (Matches.createMatch caller homeTeam awayTeam league venue kickoffTime : MarketCall N ℕ)
      (Matches.createMatch caller homeTeam awayTeam league venue kickoffTime) := by
  refine agree_bind (agree_requireAdmin caller) fun _ => ?_
  refine agree_bind agree_timestamp fun now => ?_
  refine agree_bind (agree_failIf _ _) fun _ => ?_
  refine agree_bind (agree_read fun _ _ _ _ _ _ => rfl) fun matchId => ?_
  refine agree_bind ?_ fun _ => ?_
  · apply agree_store
    rintro w _ ⟨treasury, fee, records, oracles, events, hids, halike, hjournal⟩
    refine ⟨treasury, fee, records.insert _ _, oracles, events, ?_, halike, hjournal⟩
    intro matchId
    rw [Finmap.mem_insert, Finmap.mem_insert, hids]
  refine agree_bind (agree_write fun _ _ _ _ => rfl) fun _ => ?_
  refine agree_bind (agree_checkedU64 _) fun nextMatchId => ?_
  refine agree_bind (agree_write fun _ _ _ _ => rfl) fun _ => ?_
  exact agree_bind (agree_publish _) fun _ => agree_pure _

theorem agree_initializeMarket (admin votingOracle tokenAddress treasury treasury' : Address)
    (fee fee' : ℕ) :
    Agree SameBets
      (PredictionMarket.initializeMarket admin votingOracle tokenAddress treasury fee :
        MarketCall N Unit)
      (PredictionMarket.initializeMarket admin votingOracle tokenAddress treasury' fee') := by
  refine agree_bind (agree_read fun _ _ _ _ _ _ => rfl) fun stored => ?_
  refine agree_bind (agree_failIf _ _) fun _ => ?_
  refine agree_bind (agree_requireAuth admin) fun _ => ?_
  refine agree_bind (agree_write fun _ _ _ _ => rfl) fun _ => ?_
  refine agree_bind (agree_write fun _ _ _ _ => rfl) fun _ => ?_
  refine agree_bind (agree_write fun _ _ _ _ => rfl) fun _ => ?_
  refine agree_bind ?_ fun _ => ?_
  · apply agree_store
    rintro w _ ⟨_, fee, records, oracles, events, hids, halike, hjournal⟩
    exact ⟨some treasury', fee, records, oracles, events, hids, halike, hjournal⟩
  refine agree_bind ?_ fun _ => ?_
  · apply agree_store
    rintro w _ ⟨treasury, _, records, oracles, events, hids, halike, hjournal⟩
    exact ⟨treasury, some fee', records, oracles, events, hids, halike, hjournal⟩
  refine agree_bind (agree_write fun _ _ _ _ => rfl) fun _ => ?_
  refine agree_bind (agree_write fun _ _ _ _ => rfl) fun _ => ?_
  exact agree_write fun _ _ _ _ => rfl

theorem agree_getMatchPolls (matchId : ℕ) :
    Agree SameBets (Matches.getMatchPolls matchId : MarketCall N (List ℕ))
      (Matches.getMatchPolls matchId) := by
  refine agree_bind ?_ fun stored => ?_
  · apply agree_load
    rintro w _ ⟨treasury, fee, records, oracles, events, hids, -, -⟩
    exact decide_eq_decide.mpr (hids matchId).symm
  · exact agree_bind (agree_failIf _ _) fun _ => agree_read fun _ _ _ _ _ _ => rfl

theorem agree_view {v : View} (h : ¬ ShowsMore v) :
    Agree SameBets (v.execute : MarketCall N v.Answer) v.execute := by
  cases v with
  | calculatePotentialWinnings | getTreasuryAddress | getPlatformFeeBps | getMatch
  | oraclePollStatus =>
      exact absurd trivial h
  | checkEmergencyEligible pollId => exact agree_checkEmergencyEligible pollId
  | getPoolInfo =>
      refine agree_bind (agree_read fun _ _ _ _ _ _ => rfl) fun stored => ?_
      exact agree_bind (agree_okOr _ _) fun poll => agree_pure _
  | getContractBalance =>
      refine agree_bind agree_getTokenAddress fun token => agree_bind agree_context fun env => ?_
      exact agree_bind (agree_read fun _ _ _ _ _ _ => rfl) fun tokens => agree_orAbort _ _
  | getMatchPolls matchId => exact agree_getMatchPolls matchId
  | isPaused | getUserStakes | hasUserStaked | getPlatformStats | getMatchCount =>
      exact agree_read fun _ _ _ _ _ _ => rfl
  | _ => exact agree_bind (agree_read fun _ _ _ _ _ _ => rfl) fun stored => agree_okOr _ _

end Calls

section Runs

variable {w w' : World N}

theorem step_oracle (h : SameBets w w') (signatures : Signatures N) (oracleId : Address)
    {op op' : OracleOp} (hagree : Agree OracleAlike op.execute op'.execute) :
    (step w (.oracle signatures oracleId op)).1 = (step w' (.oracle signatures oracleId op')).1 ∧
      SameBets (step w (.oracle signatures oracleId op)).2
        (step w' (.oracle signatures oracleId op')).2 := by
  obtain ⟨treasury, fee, records, oracles, events, hids, halike, hjournal⟩ := h
  unfold step varied
  dsimp only
  rcases alike_cases (halike oracleId) with ⟨hnone, hnone'⟩ | ⟨s, s', hsome, hsome', hs⟩
  · rw [hnone, hnone']
    exact ⟨rfl, treasury, fee, records, oracles, events, hids, halike, hjournal⟩
  · rw [hsome, hsome']
    obtain ⟨hreply, hstate⟩ := hagree.commit (callEnv oracleId signatures w.now) hs
    dsimp only
    generalize (op.execute (callEnv oracleId signatures w.now) s).commit s = done at hreply hstate
    generalize (op'.execute (callEnv oracleId signatures w.now) s').commit s' = done'
      at hreply hstate
    obtain ⟨reply, t⟩ := done
    obtain ⟨reply', t'⟩ := done'
    cases hreply
    cases reply with
    | ok =>
        exact ⟨rfl, treasury, fee, records, _, events, hids, alike_insert halike hstate, hjournal⟩
    | error | trap =>
        exact ⟨rfl, treasury, fee, records, oracles, events, hids, halike, hjournal⟩

theorem step_counterpart (treasury : Address) (fee : ℕ) (h : SameBets w w') {a a' : Action N}
    (ha : counterpart treasury fee a = some a') :
    (step w a).1 = (step w' a').1 ∧ SameBets (step w a).2 (step w' a').2 := by
  have hnow : w'.now = w.now := by
    cases h
    rfl
  have hcall : ∀ {signatures : Signatures N} {op op' : MarketOp},
      Agree SameBets (op.execute : MarketCall N Value) op'.execute →
      (step w (.market signatures op)).1 = (step w' (.market signatures op')).1 ∧
        SameBets (step w (.market signatures op)).2 (step w' (.market signatures op')).2 := by
    intro signatures op op' hagree
    rw [step, step, hnow]
    exact hagree.commit _ h
  cases a with
  | market signatures op =>
      cases op with
      | updateMatch | finishMatch => simp [counterpart] at ha
      | initializeMarket =>
          cases ha
          exact hcall (agree_bind (agree_initializeMarket _ _ _ _ _ _ _) fun _ => agree_pure _)
      | setOracle =>
          cases ha
          exact hcall (agree_bind (agree_setOracle _) fun _ => agree_pure _)
      | pause | unpause =>
          cases ha
          exact hcall (agree_bind (agree_setPaused _ _ _) fun _ => agree_pure _)
      | cancelPoll =>
          cases ha
          exact hcall (agree_bind (agree_cancelPoll _ _) fun _ => agree_pure _)
      | emergencyWithdraw =>
          cases ha
          exact hcall (agree_bind (agree_emergencyWithdraw _ _) fun _ => agree_pure _)
      | createPoll =>
          cases ha
          exact hcall (agree_bind (agree_createPoll _ _ _ _ _) fun _ => agree_pure _)
      | stake =>
          cases ha
          exact hcall (agree_bind (agree_stake _ _ _ _) fun _ => agree_pure _)
      | createMatch =>
          cases ha
          exact hcall (agree_bind (agree_createMatch _ _ _ _ _ _) fun _ => agree_pure _)
  | oracle signatures oracleId op =>
      cases op with
      | initializeOracle admin =>
          cases ha
          exact step_oracle h signatures oracleId (agree_initializeOracle admin)
      | setPollStatus pollId status =>
          cases ha
          exact step_oracle h signatures oracleId
            (agree_setPollStatus pollId (muted_muted status))
  | deployOracle oracleId =>
      cases ha
      obtain ⟨treasury, fee, records, oracles, events, hids, halike, hjournal⟩ := h
      have hdeployed : oracleId ∈ oracles ↔ oracleId ∈ w.oracles := by
        rw [← Finmap.lookup_isSome, ← Finmap.lookup_isSome]
        rcases alike_cases (halike oracleId) with ⟨hnone, hnone'⟩ | ⟨s, s', hsome, hsome', hs⟩
        · rw [hnone, hnone']
        · simp [hsome, hsome']
      simp only [step, varied, hdeployed]
      split
      · exact ⟨rfl, treasury, fee, records, oracles, events, hids, halike, hjournal⟩
      · exact ⟨rfl, treasury, fee, records, _, events, hids,
          alike_insert halike (.refl .deployed), hjournal⟩
  | elapse | outside =>
      cases ha
      obtain ⟨treasury, fee, records, oracles, events, hids, halike, hjournal⟩ := h
      exact ⟨rfl, treasury, fee, records, oracles, events, hids, halike, hjournal⟩

theorem SameBets.revised (h : SameBets w w') {matchId : ℕ} {old new : Match} {event : Event}
    (hold : w.market.matchRecords.lookup matchId = some old) (hevent : betting event = false) :
    SameBets { w with
      market := { w.market with matchRecords := w.market.matchRecords.insert matchId new }
      events := w.events ++ [event] } w' := by
  obtain ⟨treasury, fee, records, oracles, events, hids, halike, hjournal⟩ := h
  refine ⟨treasury, fee, records, oracles, events, ?_, halike, ?_⟩
  · intro id
    exact (hids id).trans (mem_insert_of_lookup hold new id).symm
  · rw [List.filter_append, List.filter_cons_of_neg (by simp [hevent]), List.filter_nil,
      List.append_nil, hjournal]

theorem step_dropped (treasury : Address) (fee : ℕ) (h : SameBets w w') {a : Action N}
    (ha : counterpart treasury fee a = none) : SameBets (step w a).2 w' := by
  have hstep := step_cases w a
  generalize (step w a).1 = reply at hstep
  generalize (step w a).2 = next at hstep
  cases hstep with
  | rejected => exact h
  | market committed =>
      cases committed with
      | updateMatch authorised admin_found match_found => exact h.revised match_found rfl
      | finishMatch authorised admin_found match_found => exact h.revised match_found rfl
      | _ => simp [counterpart] at ha
  | _ => simp [counterpart] at ha

/-- The same run with the market given another treasury and fee, with no match
ever changed or finished, and with the oracles' statuses muted. -/
def otherRun (treasury : Address) (fee : ℕ) (x : Execution N) : Execution N :=
  { x with actions := x.actions.filterMap (counterpart treasury fee) }

end Runs

/-- Give the market another treasury and another fee, leave out every change
and every finishing of a match, and have the oracles report active instead of
voting, admin review or resolved: all other transactions get the same replies,
and in the end the polls, stakes, refunds, totals and token balances are the
same, and so is the answer of every view that does not show these very entries. -/
theorem betting_independent (x : Execution N) (treasury : Address) (fee : ℕ) :
    (x.history.filter fun e => (counterpart treasury fee e.input).isSome).map (·.output) =
        (otherRun treasury fee x).history.map (·.output) ∧
      SameBets x.final (otherRun treasury fee x).final ∧
      ∀ v, ¬ ShowsMore v → ask (otherRun treasury fee x).final v = ask x.final v := by
  have hstart : SameBets (genesis N x.start x.tokens) (genesis N x.start x.tokens) :=
    ⟨none, none, ∅, ∅, [], fun _ => Iff.rfl, fun _ => .none, rfl⟩
  obtain ⟨hfinal, houtputs⟩ := run_related
    (v := id) (fun _ _ _ _ h ha => (step_counterpart treasury fee h ha).imp_left Eq.symm)
    (fun _ _ _ h ha => step_dropped treasury fee h ha) hstart x.actions
  have hsame : SameBets x.final (otherRun treasury fee x).final := hfinal
  refine ⟨houtputs.symm, hsame, ?_⟩
  intro v hv
  have hnow : (otherRun treasury fee x).final.now = x.final.now := by
    generalize (otherRun treasury fee x).final = w' at hsame
    cases hsame
    rfl
  have hreply := ((agree_view hv).commit (callEnv N.market (unsigned N) x.final.now) hsame).1
  rw [ask, ask, query, query, hnow]
  exact hreply.symm

end PredictX.BettingIndependence
