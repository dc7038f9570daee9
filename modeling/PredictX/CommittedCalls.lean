import PredictX.PredictionMarket

/-!
What a call that returned normally checked and did, said once for each entry
point of the market.  Everything later is derived from these descriptions and
never unfolds an entry point again.
-/

namespace PredictX.CommittedCalls

open PredictX.FiniteStore
open PredictX.HostCall.Call
open PredictX.Matches
open PredictX.MarketStorage
open PredictX.PredictionMarket
open PredictX.SharedTypes
open PredictX.SorobanHost
open PredictX.Staking
open PredictX.TokenContracts
open PredictX.TokenUtils
open PredictX.VotingOracle

variable {N : Network}

/-- The oracle's record of a poll lets its stakers withdraw: the poll is
cancelled, or it has been disputed or locked for the whole timeout. -/
def Refundable (s : OracleStorage) (pollId now : ℕ) : Prop :=
  s.pollStatusOf pollId = .cancelled ∨
    (s.pollStatusOf pollId = .disputed ∨ s.pollStatusOf pollId = .locked) ∧
      s.updatedAtOf pollId ≠ 0 ∧ emergencyTimeoutSecs ≤ now - s.updatedAtOf pollId

instance (s : OracleStorage) (pollId now : ℕ) : Decidable (Refundable s pollId now) :=
  inferInstanceAs (Decidable (_ ∨ _))

def credited (poll : Poll) (amount : ℤ) : StakeSide → Poll
  | .yes => { poll with yesPool := poll.yesPool + amount, yesCount := poll.yesCount + 1 }
  | .no => { poll with noPool := poll.noPool + amount, noCount := poll.noCount + 1 }

def stakedMarket (m : Market) (poll : Poll) (record : Stake) : Market :=
  { m with
    stakes := m.stakes.insert (record.pollId, record.user) record
    hasStaked := m.hasStaked.insert (record.pollId, record.user) true
    polls := m.polls.insert record.pollId (credited poll record.amount record.side)
    userStakes := m.userStakes.insert record.user
      (m.userStakesOf record.user ++ [record.pollId])
    platformStats := some
      { m.stats with
        totalValueLocked := m.stats.totalValueLocked + record.amount
        totalStakesPlaced := m.stats.totalStakesPlaced + 1 } }

def refundedMarket (m : Market) (user : Address) (pollId : ℕ) (amount : ℤ) : Market :=
  { m with
    emergencyClaimed := m.emergencyClaimed.insert (pollId, user) true
    platformStats := some
      { m.stats with totalValueLocked := m.stats.totalValueLocked - amount } }

def pollAddedMarket (m : Market) (poll : Poll) : Market :=
  { m with
    polls := m.polls.insert poll.pollId poll
    matchPolls := m.matchPolls.insert poll.matchId
      ((m.matchPolls.lookup poll.matchId).getD [] ++ [poll.pollId])
    nextPollId := some (poll.pollId + 1)
    platformStats := some
      { m.stats with totalPollsCreated := m.stats.totalPollsCreated + 1 } }

def matchAddedMarket (m : Market) (newMatch : Match) : Market :=
  { m with
    matchRecords := m.matchRecords.insert newMatch.matchId newMatch
    matchPolls := m.matchPolls.insert newMatch.matchId []
    nextMatchId := some (newMatch.matchId + 1) }

def revised (m : Match) (homeTeam awayTeam league venue : Option String)
    (kickoffTime : Option ℕ) : Match :=
  { m with
    homeTeam := homeTeam.getD m.homeTeam
    awayTeam := awayTeam.getD m.awayTeam
    league := league.getD m.league
    venue := venue.getD m.venue
    kickoffTime := kickoffTime.getD m.kickoffTime }

section Entries

variable (poll : Poll) (amount : ℤ) (side : StakeSide)

@[simp] theorem pollId_credited : (credited poll amount side).pollId = poll.pollId := by
  cases side <;> rfl

@[simp] theorem matchId_credited : (credited poll amount side).matchId = poll.matchId := by
  cases side <;> rfl

@[simp] theorem lockTime_credited : (credited poll amount side).lockTime = poll.lockTime := by
  cases side <;> rfl

@[simp] theorem status_credited : (credited poll amount side).status = poll.status := by
  cases side <;> rfl

@[simp] theorem createdAt_credited : (credited poll amount side).createdAt = poll.createdAt := by
  cases side <;> rfl

variable (m : Market) (record : Stake)

theorem polls_staked (pollId : ℕ) : (stakedMarket m poll record).polls.lookup pollId =
    if pollId = record.pollId then some (credited poll record.amount record.side)
    else m.polls.lookup pollId :=
  lookup_insert_eq _ _ _ _

theorem stakes_staked (k : ℕ × Address) : (stakedMarket m poll record).stakes.lookup k =
    if k = (record.pollId, record.user) then some record else m.stakes.lookup k :=
  lookup_insert_eq _ _ _ _

theorem polls_pollAdded (pollId : ℕ) : (pollAddedMarket m poll).polls.lookup pollId =
    if pollId = poll.pollId then some poll else m.polls.lookup pollId :=
  lookup_insert_eq _ _ _ _

theorem matchRecords_matchAdded (newMatch : Match) (matchId : ℕ) :
    (matchAddedMarket m newMatch).matchRecords.lookup matchId =
      if matchId = newMatch.matchId then some newMatch else m.matchRecords.lookup matchId :=
  lookup_insert_eq _ _ _ _

end Entries

/-- `Committed env w op value w'`: the call `op` made in the context `env` on
the ledger `w` returns `value` and leaves the ledger `w'`. -/
inductive Committed (env : Env) (w : World N) : MarketOp → Value → World N → Prop where
  | initializeMarket {admin votingOracle tokenAddress treasuryAddress : Address}
      {platformFeeBps : ℕ}
      (fresh : w.market.admin = none)
      (authorised : env.authorises admin = true) :
      Committed env w
        (.initializeMarket admin votingOracle tokenAddress treasuryAddress platformFeeBps)
        .unit
        { w with
          market :=
            { w.market with
              admin := some admin
              votingOracle := some votingOracle
              tokenAddress := some tokenAddress
              treasuryAddress := some treasuryAddress
              platformFeeBps := some platformFeeBps
              nextMatchId := some 1
              nextPollId := some 1
              initialized := some true } }
  | setOracle {votingOracle admin : Address}
      (notPaused : w.market.isPaused = false)
      (admin_found : w.market.admin = some admin)
      (authorised : env.authorises admin = true) :
      Committed env w (.setOracle votingOracle) .unit
        { w with market := { w.market with votingOracle := some votingOracle } }
  | pause {admin : Address}
      (admin_found : w.market.admin = some admin)
      (authorised : env.authorises admin = true) :
      Committed env w (.pause admin) .unit
        { w with
          market := { w.market with paused := some true }
          events := w.events ++ [.contractPaused] }
  | unpause {admin : Address}
      (admin_found : w.market.admin = some admin)
      (authorised : env.authorises admin = true) :
      Committed env w (.unpause admin) .unit
        { w with
          market := { w.market with paused := some false }
          events := w.events ++ [.contractUnpaused] }
  | cancelPoll {admin oracleId oracleAdmin : Address} {pollId : ℕ} {storage : OracleStorage}
      (notPaused : w.market.isPaused = false)
      (admin_found : w.market.admin = some admin)
      (authorised : env.authorises admin = true)
      (oracle_found : w.market.votingOracle = some oracleId)
      (deployed : w.oracles.lookup oracleId = some storage)
      (oracleAdmin_found : storage.admin = some oracleAdmin)
      (oracleAuthorised : (env.callee oracleId).authorises oracleAdmin = true) :
      Committed env w (.cancelPoll admin pollId) .unit
        { w with
          oracles := w.oracles.insert oracleId
            (storage.recorded pollId ⟨.cancelled, env.timestamp⟩)
          events := w.events ++ [.pollCancelled pollId] }
  | emergencyWithdraw {user oracleId token : Address} {pollId : ℕ} {storage : OracleStorage}
      {record : Stake} {tokens : N.State}
      (authorised : env.authorises user = true)
      (unclaimed : w.market.hasEmergencyClaimed pollId user = false)
      (oracle_found : w.market.votingOracle = some oracleId)
      (deployed : w.oracles.lookup oracleId = some storage)
      (refundable : Refundable storage pollId env.timestamp)
      (staked : w.market.stakes.lookup (pollId, user) = some record)
      (token_found : w.market.tokenAddress = some token)
      (transferred : N.transfer w.tokens token true env.contract user record.amount =
        some tokens)
      (locked_fits : InI128 (w.market.stats.totalValueLocked - record.amount)) :
      Committed env w (.emergencyWithdraw user pollId) (.amount record.amount)
        { w with
          market := refundedMarket w.market user pollId record.amount
          tokens := tokens
          events := w.events ++ [.emergencyWithdrawal pollId user record.amount] }
  | createPoll {creator : Address} {matchId : ℕ} {question : String} {category : PollCategory}
      {lockTime : ℕ} {m : Match} {poll : Poll}
      (notPaused : w.market.isPaused = false)
      (authorised : env.authorises creator = true)
      (match_found : w.market.matchRecords.lookup matchId = some m)
      (lock_later : env.timestamp < lockTime)
      (room : ((w.market.matchPolls.lookup matchId).getD []).length < maxPollsPerMatch)
      (id_fits : w.market.nextPollId.getD 1 + 1 < 2 ^ 64)
      (count_fits : w.market.stats.totalPollsCreated + 1 < 2 ^ 64)
      (poll_eq : poll =
        { pollId := w.market.nextPollId.getD 1, matchId, creator, question, category, lockTime
          yesPool := 0, noPool := 0, yesCount := 0, noCount := 0
          status := .active, outcome := none, resolutionTime := 0
          createdAt := env.timestamp }) :
      Committed env w (.createPoll creator matchId question category lockTime)
        (.id poll.pollId)
        { w with
          market := pollAddedMarket w.market poll
          events := w.events ++ [.pollCreated poll.pollId] }
  | stake {staker token : Address} {pollId : ℕ} {amount : ℤ} {side : StakeSide}
      {poll : Poll} {record : Stake} {tokens : N.State}
      (authorised : env.authorises staker = true)
      (notPaused : w.market.isPaused = false)
      (minimum : minStakeAmount ≤ amount)
      (poll_found : w.market.polls.lookup pollId = some poll)
      (poll_active : poll.status = .active)
      (poll_open : env.timestamp < poll.lockTime)
      (fresh : (pollId, staker) ∉ w.market.hasStaked)
      (token_found : w.market.tokenAddress = some token)
      (transferred : N.transfer w.tokens token ((env.callee token).authorises staker)
        staker env.contract amount = some tokens)
      (locked_fits : InI128 (w.market.stats.totalValueLocked + amount))
      (record_eq : record =
        { user := staker, pollId, amount, side, claimed := false, stakedAt := env.timestamp }) :
      Committed env w (.stake staker pollId amount side) (.stake record)
        { w with
          market := stakedMarket w.market poll record
          tokens := tokens
          events := w.events ++ [.stakePlaced pollId staker amount side] }
  | createMatch {admin : Address} {homeTeam awayTeam league venue : String} {kickoffTime : ℕ}
      {newMatch : Match}
      (authorised : env.authorises admin = true)
      (admin_found : w.market.admin = some admin)
      (kickoff_later : env.timestamp < kickoffTime)
      (id_fits : w.market.nextMatchId.getD 1 + 1 < 2 ^ 64)
      (match_eq : newMatch =
        { matchId := w.market.nextMatchId.getD 1, homeTeam, awayTeam, league, venue, kickoffTime
          createdBy := admin, isFinished := false }) :
      Committed env w (.createMatch admin homeTeam awayTeam league venue kickoffTime)
        (.id newMatch.matchId)
        { w with
          market := matchAddedMarket w.market newMatch
          events := w.events ++ [.matchCreated newMatch.matchId newMatch] }
  | updateMatch {admin : Address} {matchId : ℕ} {homeTeam awayTeam league venue : Option String}
      {kickoffTime : Option ℕ} {m updated : Match}
      (authorised : env.authorises admin = true)
      (admin_found : w.market.admin = some admin)
      (match_found : w.market.matchRecords.lookup matchId = some m)
      (not_started : env.timestamp < m.kickoffTime)
      (kickoff_later : ∀ kt ∈ kickoffTime, env.timestamp < kt)
      (updated_eq : updated = revised m homeTeam awayTeam league venue kickoffTime) :
      Committed env w (.updateMatch admin matchId homeTeam awayTeam league venue kickoffTime)
        (.matchRecord updated)
        { w with
          market :=
            { w.market with matchRecords := w.market.matchRecords.insert matchId updated }
          events := w.events ++ [.matchUpdated matchId updated] }
  | finishMatch {admin : Address} {matchId : ℕ} {m : Match}
      (authorised : env.authorises admin = true)
      (admin_found : w.market.admin = some admin)
      (match_found : w.market.matchRecords.lookup matchId = some m) :
      Committed env w (.finishMatch admin matchId) .unit
        { w with
          market :=
            { w.market with
              matchRecords := w.market.matchRecords.insert matchId { m with isFinished := true } }
          events := w.events ++ [.matchFinished matchId] }

section Inversion

variable {env : Env} {w w' : World N} {u : Unit} {value : Value}

theorem initializeMarket_committed
    {admin votingOracle tokenAddress treasuryAddress : Address} {platformFeeBps : ℕ}
    (h : Returns (PredictionMarket.initializeMarket admin votingOracle tokenAddress
      treasuryAddress platformFeeBps) env w u w') :
    Committed env w
      (.initializeMarket admin votingOracle tokenAddress treasuryAddress platformFeeBps)
      .unit w' := by
  simp only [PredictionMarket.initializeMarket, bind_returns, load_returns, failIf_returns,
    requireAuth_returns, setMarket_returns] at h
  obtain ⟨_, _, ⟨rfl, rfl⟩, h⟩ := h
  obtain ⟨_, _, ⟨hfresh, rfl⟩, h⟩ := h
  obtain ⟨_, _, ⟨hauth, rfl⟩, h⟩ := h
  obtain ⟨_, _, rfl, h⟩ := h
  obtain ⟨_, _, rfl, h⟩ := h
  obtain ⟨_, _, rfl, h⟩ := h
  obtain ⟨_, _, rfl, h⟩ := h
  obtain ⟨_, _, rfl, h⟩ := h
  obtain ⟨_, _, rfl, h⟩ := h
  obtain ⟨_, _, rfl, rfl⟩ := h
  exact .initializeMarket (by simpa using hfresh) hauth

theorem setOracle_committed {votingOracle : Address}
    (h : Returns (PredictionMarket.setOracle votingOracle) env w u w') :
    Committed env w (.setOracle votingOracle) .unit w' := by
  simp only [PredictionMarket.setOracle, bind_returns, ensureNotPaused_returns,
    MarketStorage.getAdmin_returns, requireAuth_returns, setMarket_returns] at h
  obtain ⟨_, _, ⟨hpaused, rfl⟩, h⟩ := h
  obtain ⟨_, _, ⟨hadmin, rfl⟩, h⟩ := h
  obtain ⟨_, _, ⟨hauth, rfl⟩, rfl⟩ := h
  exact .setOracle hpaused hadmin hauth

theorem setPaused_returns {admin : Address} {paused : Bool} {event : Event} :
    Returns (setPaused admin paused event : MarketCall N Unit) env w u w' ↔
      w.market.admin = some admin ∧ env.authorises admin = true ∧
        w' = { w with
          market := { w.market with paused := some paused }
          events := w.events ++ [event] } := by
  simp only [setPaused, bind_returns, MarketStorage.getAdmin_returns, failIf_returns,
    requireAuth_returns, setMarket_returns, publish_returns]
  constructor
  · rintro ⟨stored, _, ⟨hadmin, rfl⟩, _, _, ⟨hsame, rfl⟩, _, _, ⟨hauth, rfl⟩, _, _, rfl, rfl⟩
    rw [not_not.mp hsame]
    exact ⟨hadmin, not_not.mp hsame ▸ hauth, rfl⟩
  · rintro ⟨hadmin, hauth, rfl⟩
    exact ⟨admin, w, ⟨hadmin, rfl⟩, (), w, ⟨by simp, rfl⟩, (), w, ⟨hauth, rfl⟩, (), _, rfl, rfl⟩

theorem cancelPoll_committed {admin : Address} {pollId : ℕ}
    (h : Returns (PredictionMarket.cancelPoll admin pollId) env w u w') :
    Committed env w (.cancelPoll admin pollId) .unit w' := by
  simp only [PredictionMarket.cancelPoll, bind_returns, ensureNotPaused_returns,
    MarketStorage.getAdmin_returns, failIf_returns, requireAuth_returns, getOracle_returns,
    callOracle_returns, setPollStatus_returns, publish_returns] at h
  obtain ⟨_, _, ⟨hpaused, rfl⟩, h⟩ := h
  obtain ⟨stored, _, ⟨hadmin, rfl⟩, h⟩ := h
  obtain ⟨_, _, ⟨hsame, rfl⟩, h⟩ := h
  obtain ⟨_, _, ⟨hauth, rfl⟩, h⟩ := h
  obtain ⟨oracleId, _, ⟨horacle, rfl⟩, h⟩ := h
  obtain ⟨_, _, ⟨storage, _, hdeployed, ⟨oracleAdmin, hset, hsigned, rfl⟩, rfl⟩, h⟩ := h
  subst h
  exact .cancelPoll hpaused (not_not.mp hsame ▸ hadmin) hauth horacle hdeployed hset hsigned

theorem callOracle_query_returns {α : Type} {oracleId : Address} {storage : OracleStorage}
    (hdeployed : w.oracles.lookup oracleId = some storage) {f : OracleStorage → α} {a : α} :
    Returns (callOracle oracleId (load f) : MarketCall N α) env w a w' ↔
      a = f storage ∧ w' = w := by
  rw [callOracle_load_returns, hdeployed]
  simp

theorem eligible_returns {oracleId : Address} {pollId : ℕ} {b : Bool} :
    Returns (eligible oracleId pollId : MarketCall N Bool) env w b w' ↔
      ∃ storage, w.oracles.lookup oracleId = some storage ∧
        b = decide (Refundable storage pollId env.timestamp) ∧ w' = w := by
  cases hdeployed : w.oracles.lookup oracleId with
  | none => simp [eligible, bind_returns, getPollStatus, callOracle_load_returns, hdeployed]
  | some storage =>
      simp only [eligible, bind_returns, getPollStatus, callOracle_query_returns hdeployed,
        mapOraclePollStatus_eq, existsAndEq, true_and, Option.some.injEq]
      by_cases hcancelled : storage.pollStatusOf pollId = .cancelled
      · simp [hcancelled, Refundable, pure_returns]
      by_cases htimed : storage.pollStatusOf pollId = .disputed ∨
          storage.pollStatusOf pollId = .locked
      · simp [hcancelled, htimed, Refundable, getPollStatusUpdatedAt, bind_returns,
          callOracle_query_returns hdeployed, timestamp_returns, pure_returns,
          and_comm (a := w' = w)]
      · simp [hcancelled, htimed, Refundable, pure_returns]

theorem checkEmergencyEligible_returns {oracleId : Address} {pollId : ℕ} {storage : OracleStorage}
    {b : Bool} (horacle : w.market.votingOracle = some oracleId)
    (hdeployed : w.oracles.lookup oracleId = some storage) :
    Returns (checkEmergencyEligible pollId : MarketCall N Bool) env w b w' ↔
      b = decide (Refundable storage pollId env.timestamp) ∧ w' = w := by
  simp only [checkEmergencyEligible, bind_returns, load_returns, existsAndEq, true_and, horacle,
    getPollStatus, callOracle_query_returns hdeployed, mapOraclePollStatus_eq]
  by_cases hcancelled : storage.pollStatusOf pollId = .cancelled
  · simp [hcancelled, Refundable, pure_returns]
  by_cases htimed : storage.pollStatusOf pollId = .disputed ∨
      storage.pollStatusOf pollId = .locked
  · have hrest : ¬ (storage.pollStatusOf pollId ≠ .disputed ∧
        storage.pollStatusOf pollId ≠ .locked) := by
      tauto
    rw [if_neg hcancelled, if_neg hrest]
    simp only [getPollStatusUpdatedAt, bind_returns, callOracle_query_returns hdeployed,
      timestamp_returns, existsAndEq, true_and]
    by_cases hnever : storage.updatedAtOf pollId = 0
    · simp [hnever, hcancelled, Refundable, pure_returns]
    · simp [hnever, hcancelled, htimed, Refundable, pure_returns]
  · rw [if_neg hcancelled, if_pos (not_or.mp htimed)]
    simp [hcancelled, htimed, Refundable, pure_returns]

theorem checkEmergencyEligible_true {pollId : ℕ} :
    Returns (checkEmergencyEligible pollId : MarketCall N Bool) env w true w' ↔
      w' = w ∧ Configured w (fun s => Refundable s pollId env.timestamp) := by
  cases horacle : w.market.votingOracle with
  | none => simp [checkEmergencyEligible, bind_returns, load_returns, horacle, pure_returns,
      Configured]
  | some oracleId =>
      cases hdeployed : w.oracles.lookup oracleId with
      | none => simp [checkEmergencyEligible, bind_returns, load_returns, horacle, getPollStatus,
          callOracle_load_returns, hdeployed, Configured]
      | some storage =>
          rw [checkEmergencyEligible_returns horacle hdeployed]
          simp [Configured, horacle, hdeployed, and_comm]

theorem emergencyWithdraw_returns {user : Address} {pollId : ℕ} {amount : ℤ} :
    Returns (PredictionMarket.emergencyWithdraw user pollId) env w amount w' ↔
      Committed env w (.emergencyWithdraw user pollId) (.amount amount) w' := by
  simp only [PredictionMarket.emergencyWithdraw, bind_returns, requireAuth_returns, load_returns,
    failIf_returns, getOracle_returns, loadStake, okOr_returns, setEmergencyClaimed,
    setMarket_returns, transferFromContract_returns, getPlatformStats_returns,
    checkedI128_returns, setPlatformStats_returns, publish_returns, pure_returns]
  constructor
  · intro h
    obtain ⟨_, _, ⟨hauth, rfl⟩, h⟩ := h
    obtain ⟨_, _, ⟨rfl, rfl⟩, h⟩ := h
    obtain ⟨_, _, ⟨hunclaimed, rfl⟩, h⟩ := h
    obtain ⟨oracleId, _, ⟨horacle, rfl⟩, h⟩ := h
    obtain ⟨_, _, heligible, h⟩ := h
    obtain ⟨storage, hdeployed, rfl, rfl⟩ := eligible_returns.mp heligible
    obtain ⟨_, _, ⟨hrefundable, rfl⟩, h⟩ := h
    obtain ⟨_, _, ⟨rfl, rfl⟩, h⟩ := h
    obtain ⟨record, _, ⟨hstaked, rfl⟩, h⟩ := h
    obtain ⟨_, _, rfl, h⟩ := h
    obtain ⟨_, _, ⟨token, tokens, htoken, htransfer, rfl⟩, h⟩ := h
    obtain ⟨_, _, ⟨rfl, rfl⟩, h⟩ := h
    obtain ⟨_, _, ⟨hlocked, rfl, rfl⟩, h⟩ := h
    obtain ⟨_, _, rfl, h⟩ := h
    obtain ⟨_, _, rfl, rfl, rfl⟩ := h
    exact .emergencyWithdraw hauth (by simpa using hunclaimed) horacle hdeployed
      (by simpa using hrefundable) hstaked htoken htransfer hlocked
  · intro h
    cases h with
    | emergencyWithdraw hauth hunclaimed horacle hdeployed hrefundable hstaked htoken htransfer
        hlocked =>
        refine ⟨(), w, ⟨hauth, rfl⟩, _, w, ⟨rfl, rfl⟩, (), w, ⟨by simp [hunclaimed], rfl⟩,
          _, w, ⟨horacle, rfl⟩, _, w, eligible_returns.mpr ⟨_, hdeployed, rfl, rfl⟩,
          (), w, ⟨by simpa using hrefundable, rfl⟩, _, w, ⟨rfl, rfl⟩, _, w, ⟨hstaked, rfl⟩, ?_⟩
        exact ⟨(), _, rfl, (), _, ⟨_, _, htoken, htransfer, rfl⟩, _, _, ⟨rfl, rfl⟩,
          _, _, ⟨hlocked, rfl, rfl⟩, (), _, rfl, (), _, rfl, rfl, rfl⟩

theorem createPoll_committed {creator : Address} {matchId : ℕ} {question : String}
    {category : PollCategory} {lockTime pollId : ℕ}
    (h : Returns (PredictionMarket.createPoll creator matchId question category lockTime)
      env w pollId w') :
    Committed env w (.createPoll creator matchId question category lockTime) (.id pollId) w' := by
  simp only [PredictionMarket.createPoll, bind_returns, ensureNotPaused_returns,
    requireAuth_returns, load_returns, okOr_returns, timestamp_returns, failIf_returns,
    setMarket_returns, checkedU64_returns, getPlatformStats_returns, setPlatformStats_returns,
    publish_returns, pure_returns] at h
  obtain ⟨_, _, ⟨hpaused, rfl⟩, h⟩ := h
  obtain ⟨_, _, ⟨hauth, rfl⟩, h⟩ := h
  obtain ⟨_, _, ⟨rfl, rfl⟩, h⟩ := h
  obtain ⟨m, _, ⟨hmatch, rfl⟩, h⟩ := h
  obtain ⟨_, _, ⟨rfl, rfl⟩, h⟩ := h
  obtain ⟨_, _, ⟨hlock, rfl⟩, h⟩ := h
  obtain ⟨_, _, ⟨rfl, rfl⟩, h⟩ := h
  obtain ⟨_, _, ⟨hroom, rfl⟩, h⟩ := h
  obtain ⟨_, _, ⟨rfl, rfl⟩, h⟩ := h
  obtain ⟨_, _, rfl, h⟩ := h
  obtain ⟨_, _, rfl, h⟩ := h
  obtain ⟨_, _, ⟨hid, rfl, rfl⟩, h⟩ := h
  obtain ⟨_, _, rfl, h⟩ := h
  obtain ⟨_, _, ⟨rfl, rfl⟩, h⟩ := h
  obtain ⟨_, _, ⟨hcount, rfl, rfl⟩, h⟩ := h
  obtain ⟨_, _, rfl, h⟩ := h
  obtain ⟨_, _, rfl, rfl, rfl⟩ := h
  exact .createPoll hpaused hauth hmatch (not_le.mp hlock) (not_le.mp hroom) hid hcount rfl

theorem updatePoolTotals_returns {poll poll' : Poll} {amount : ℤ} {side : StakeSide}
    (h : Returns (updatePoolTotals poll amount side : MarketCall N Poll) env w poll' w') :
    poll' = credited poll amount side ∧ w' = w := by
  cases side with
  | yes | no =>
      simp only [updatePoolTotals, bind_returns, checkedI128_returns, checkedU32_returns,
        pure_returns] at h
      obtain ⟨_, _, ⟨-, rfl, rfl⟩, h⟩ := h
      obtain ⟨_, _, ⟨-, rfl, rfl⟩, rfl, rfl⟩ := h
      exact ⟨rfl, rfl⟩

theorem stake_committed {staker : Address} {pollId : ℕ} {amount : ℤ} {side : StakeSide}
    {record : Stake}
    (h : Returns (Staking.stake staker pollId amount side) env w record w') :
    Committed env w (.stake staker pollId amount side) (.stake record) w' := by
  simp only [Staking.stake, bind_returns, requireAuth_returns, ensureNotPaused_returns,
    failIf_returns, load_returns, okOr_returns, timestamp_returns, transferToContract_returns,
    setMarket_returns, getPlatformStats_returns, checkedI128_returns, checkedU64_returns,
    setPlatformStats_returns, publish_returns, pure_returns] at h
  obtain ⟨_, _, ⟨hauth, rfl⟩, h⟩ := h
  obtain ⟨_, _, ⟨hpaused, rfl⟩, h⟩ := h
  obtain ⟨_, _, ⟨-, rfl⟩, h⟩ := h
  obtain ⟨_, _, ⟨hminimum, rfl⟩, h⟩ := h
  obtain ⟨_, _, ⟨rfl, rfl⟩, h⟩ := h
  obtain ⟨poll, _, ⟨hpoll, rfl⟩, h⟩ := h
  obtain ⟨_, _, ⟨hactive, rfl⟩, h⟩ := h
  obtain ⟨_, _, ⟨rfl, rfl⟩, h⟩ := h
  obtain ⟨_, _, ⟨hopen, rfl⟩, h⟩ := h
  obtain ⟨_, _, ⟨rfl, rfl⟩, h⟩ := h
  obtain ⟨_, _, ⟨hfresh, rfl⟩, h⟩ := h
  obtain ⟨_, _, ⟨token, tokens, htoken, htransfer, rfl⟩, h⟩ := h
  obtain ⟨_, _, rfl, h⟩ := h
  obtain ⟨_, _, rfl, h⟩ := h
  obtain ⟨poll', _, hpools, h⟩ := h
  obtain ⟨rfl, rfl⟩ := updatePoolTotals_returns hpools
  obtain ⟨_, _, rfl, h⟩ := h
  obtain ⟨_, _, ⟨rfl, rfl⟩, h⟩ := h
  obtain ⟨_, _, rfl, h⟩ := h
  obtain ⟨_, _, ⟨rfl, rfl⟩, h⟩ := h
  obtain ⟨_, _, ⟨hlocked, rfl, rfl⟩, h⟩ := h
  obtain ⟨_, _, ⟨-, rfl, rfl⟩, h⟩ := h
  obtain ⟨_, _, rfl, h⟩ := h
  obtain ⟨_, _, rfl, rfl, rfl⟩ := h
  exact .stake hauth hpaused (not_lt.mp hminimum) hpoll (not_not.mp hactive) (not_le.mp hopen)
    (by simpa using hfresh) htoken htransfer hlocked rfl

theorem createMatch_committed {admin : Address} {homeTeam awayTeam league venue : String}
    {kickoffTime matchId : ℕ}
    (h : Returns (Matches.createMatch admin homeTeam awayTeam league venue kickoffTime)
      env w matchId w') :
    Committed env w (.createMatch admin homeTeam awayTeam league venue kickoffTime)
      (.id matchId) w' := by
  simp only [Matches.createMatch, bind_returns, requireAdmin_returns, timestamp_returns,
    failIf_returns, load_returns, setMarket_returns, checkedU64_returns, publish_returns,
    pure_returns] at h
  obtain ⟨_, _, ⟨hauth, hadmin, rfl⟩, h⟩ := h
  obtain ⟨_, _, ⟨rfl, rfl⟩, h⟩ := h
  obtain ⟨_, _, ⟨hkickoff, rfl⟩, h⟩ := h
  obtain ⟨_, _, ⟨rfl, rfl⟩, h⟩ := h
  obtain ⟨_, _, rfl, h⟩ := h
  obtain ⟨_, _, rfl, h⟩ := h
  obtain ⟨_, _, ⟨hid, rfl, rfl⟩, h⟩ := h
  obtain ⟨_, _, rfl, h⟩ := h
  obtain ⟨_, _, rfl, rfl, rfl⟩ := h
  exact .createMatch hauth hadmin (not_le.mp hkickoff) hid rfl

theorem reschedule_returns {m m' : Match} {now : ℕ} {kickoffTime : Option ℕ}
    (h : Returns (reschedule m now kickoffTime : MarketCall N Match) env w m' w') :
    (∀ kt ∈ kickoffTime, now < kt) ∧
      m' = { m with kickoffTime := kickoffTime.getD m.kickoffTime } ∧ w' = w := by
  cases kickoffTime with
  | none =>
      obtain ⟨rfl, rfl⟩ := pure_returns.mp h
      exact ⟨by simp, rfl, rfl⟩
  | some kt =>
      simp only [reschedule, bind_returns, failIf_returns, pure_returns] at h
      obtain ⟨_, _, ⟨hkt, rfl⟩, rfl, rfl⟩ := h
      exact ⟨by simpa using hkt, rfl, rfl⟩

theorem updateMatch_committed {admin : Address} {matchId : ℕ}
    {homeTeam awayTeam league venue : Option String} {kickoffTime : Option ℕ} {updated : Match}
    (h : Returns (Matches.updateMatch admin matchId homeTeam awayTeam league venue kickoffTime)
      env w updated w') :
    Committed env w (.updateMatch admin matchId homeTeam awayTeam league venue kickoffTime)
      (.matchRecord updated) w' := by
  simp only [Matches.updateMatch, bind_returns, requireAdmin_returns, load_returns,
    okOr_returns, timestamp_returns, failIf_returns, setMarket_returns, publish_returns,
    pure_returns] at h
  obtain ⟨_, _, ⟨hauth, hadmin, rfl⟩, h⟩ := h
  obtain ⟨_, _, ⟨rfl, rfl⟩, h⟩ := h
  obtain ⟨m, _, ⟨hmatch, rfl⟩, h⟩ := h
  obtain ⟨_, _, ⟨rfl, rfl⟩, h⟩ := h
  obtain ⟨_, _, ⟨hstarted, rfl⟩, h⟩ := h
  obtain ⟨_, _, hrevised, h⟩ := h
  obtain ⟨hkickoff, rfl, rfl⟩ := reschedule_returns hrevised
  obtain ⟨_, _, rfl, h⟩ := h
  obtain ⟨_, _, rfl, rfl, rfl⟩ := h
  exact .updateMatch hauth hadmin hmatch (not_le.mp hstarted) hkickoff rfl

theorem finishMatch_committed {admin : Address} {matchId : ℕ}
    (h : Returns (Matches.finishMatch admin matchId) env w u w') :
    Committed env w (.finishMatch admin matchId) .unit w' := by
  simp only [Matches.finishMatch, bind_returns, requireAdmin_returns, load_returns,
    okOr_returns, setMarket_returns, publish_returns] at h
  obtain ⟨_, _, ⟨hauth, hadmin, rfl⟩, h⟩ := h
  obtain ⟨_, _, ⟨rfl, rfl⟩, h⟩ := h
  obtain ⟨m, _, ⟨hmatch, rfl⟩, h⟩ := h
  obtain ⟨_, _, rfl, h⟩ := h
  subst h
  exact .finishMatch hauth hadmin hmatch

theorem committed_of_returns {op : MarketOp} (h : Returns op.execute env w value w') :
    Committed env w op value w' := by
  cases op <;> simp only [MarketOp.execute, bind_returns, pure_returns] at h <;>
    obtain ⟨a, w₁, h, rfl, rfl⟩ := h
  case initializeMarket => exact initializeMarket_committed h
  case setOracle => exact setOracle_committed h
  case pause =>
    obtain ⟨hadmin, hauth, rfl⟩ := setPaused_returns.mp h
    exact .pause hadmin hauth
  case unpause =>
    obtain ⟨hadmin, hauth, rfl⟩ := setPaused_returns.mp h
    exact .unpause hadmin hauth
  case cancelPoll => exact cancelPoll_committed h
  case emergencyWithdraw => exact emergencyWithdraw_returns.mp h
  case createPoll => exact createPoll_committed h
  case stake => exact stake_committed h
  case createMatch => exact createMatch_committed h
  case updateMatch => exact updateMatch_committed h
  case finishMatch => exact finishMatch_committed h

end Inversion

end PredictX.CommittedCalls
