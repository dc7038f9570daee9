import PredictX.Matches
import PredictX.Staking

namespace PredictX.PredictionMarket

open PredictX.HostCall.Call
open PredictX.MarketStorage
open PredictX.SharedTypes
open PredictX.SorobanHost
open PredictX.TokenContracts
open PredictX.TokenUtils
open PredictX.VotingOracle

variable {N : Network}

/-- The imported client has its own copy of the status type. -/
def mapOraclePollStatus : PollStatus → PollStatus
  | .active => .active
  | .locked => .locked
  | .voting => .voting
  | .adminReview => .adminReview
  | .disputed => .disputed
  | .resolved => .resolved
  | .cancelled => .cancelled

@[simp] theorem mapOraclePollStatus_eq (status : PollStatus) :
    mapOraclePollStatus status = status := by
  cases status <;> rfl

def initializeMarket (admin votingOracle tokenAddress treasuryAddress : Address)
    (platformFeeBps : ℕ) : MarketCall N Unit := do
  let stored ← load (·.market.admin)
  failIf (stored.isSome = true) .alreadyInitialized
  requireAuth admin
  setMarket fun m => { m with admin := some admin }
  setMarket fun m => { m with votingOracle := some votingOracle }
  setMarket fun m => { m with tokenAddress := some tokenAddress }
  setMarket fun m => { m with treasuryAddress := some treasuryAddress }
  setMarket fun m => { m with platformFeeBps := some platformFeeBps }
  setMarket fun m => { m with nextMatchId := some 1 }
  setMarket fun m => { m with nextPollId := some 1 }
  setMarket fun m => { m with initialized := some true }

def setOracle (votingOracle : Address) : MarketCall N Unit := do
  ensureNotPaused
  let admin ← getAdmin
  requireAuth admin
  setMarket fun m => { m with votingOracle := some votingOracle }

/-- Pausing and unpausing compare the caller before it signs. -/
def setPaused (admin : Address) (paused : Bool) (event : Event) : MarketCall N Unit := do
  let storedAdmin ← getAdmin
  failIf (admin ≠ storedAdmin) .unauthorized
  requireAuth admin
  setMarket fun m => { m with paused := some paused }
  publish event

def pause (admin : Address) : MarketCall N Unit :=
  setPaused admin true .contractPaused

def unpause (admin : Address) : MarketCall N Unit :=
  setPaused admin false .contractUnpaused

def isPaused : MarketCall N Bool := load (·.market.isPaused)

def oraclePollStatus (pollId : ℕ) : MarketCall N PollStatus := do
  let oracleId ← getOracle
  let status ← callOracle oracleId (getPollStatus pollId)
  pure (mapOraclePollStatus status)

/-- The cancellation is written to the oracle only. -/
def cancelPoll (admin : Address) (pollId : ℕ) : MarketCall N Unit := do
  ensureNotPaused
  let storedAdmin ← getAdmin
  failIf (admin ≠ storedAdmin) .unauthorized
  requireAuth admin
  let oracleId ← getOracle
  callOracle oracleId (setPollStatus pollId .cancelled)
  publish (.pollCancelled pollId)

def checkEmergencyEligible (pollId : ℕ) : MarketCall N Bool := do
  let oracle ← load (·.market.votingOracle)
  match oracle with
  | none => pure false
  | some oracleId => do
      let status ← callOracle oracleId (getPollStatus pollId)
      let status := mapOraclePollStatus status
      if status = .cancelled then pure true
      else if status ≠ .disputed ∧ status ≠ .locked then pure false
      else do
        let updatedAt ← callOracle oracleId (getPollStatusUpdatedAt pollId)
        let now ← timestamp
        if updatedAt = 0 then pure false
        else pure (decide (emergencyTimeoutSecs ≤ now - updatedAt))

/-- The `eligible` block of `emergency_withdraw`, written separately from the
view above. -/
def eligible (oracleId : Address) (pollId : ℕ) : MarketCall N Bool := do
  let status ← callOracle oracleId (getPollStatus pollId)
  let status := mapOraclePollStatus status
  if status = .cancelled then pure true
  else if status = .disputed ∨ status = .locked then do
    let updatedAt ← callOracle oracleId (getPollStatusUpdatedAt pollId)
    let now ← timestamp
    pure (decide (updatedAt ≠ 0 ∧ emergencyTimeoutSecs ≤ now - updatedAt))
  else pure false

def emergencyWithdraw (user : Address) (pollId : ℕ) : MarketCall N ℤ := do
  requireAuth user
  let claimed ← load (·.market.hasEmergencyClaimed pollId user)
  failIf (claimed = true) .alreadyClaimed
  let oracleId ← getOracle
  let eligible ← eligible oracleId pollId
  failIf (eligible = false) .emergencyWithdrawNotAllowed
  let stake ← loadStake pollId user
  let stake ← okOr stake .notStaker
  setEmergencyClaimed pollId user
  transferFromContract user stake.amount
  let stats ← getPlatformStats
  let totalValueLocked ← checkedI128 (stats.totalValueLocked - stake.amount)
  setPlatformStats { stats with totalValueLocked }
  publish (.emergencyWithdrawal pollId user stake.amount)
  pure stake.amount

/-- The match is looked up but neither its kickoff nor its end is compared
with the lock time. -/
def createPoll (creator : Address) (matchId : ℕ) (question : String) (category : PollCategory)
    (lockTime : ℕ) : MarketCall N ℕ := do
  ensureNotPaused
  requireAuth creator
  let stored ← load (·.market.matchRecords.lookup matchId)
  let _ ← okOr stored .matchNotFound
  let now ← timestamp
  failIf (lockTime ≤ now) .invalidLockTime
  let matchPolls ← load fun w => (w.market.matchPolls.lookup matchId).getD []
  failIf (maxPollsPerMatch ≤ matchPolls.length) .maxPollsPerMatchReached
  let pollId ← load fun w => w.market.nextPollId.getD 1
  let poll : Poll :=
    { pollId, matchId, creator, question, category, lockTime
      yesPool := 0, noPool := 0, yesCount := 0, noCount := 0
      status := .active, outcome := none, resolutionTime := 0, createdAt := now }
  setMarket fun m => { m with polls := m.polls.insert pollId poll }
  setMarket fun m => { m with matchPolls := m.matchPolls.insert matchId (matchPolls ++ [pollId]) }
  let nextPollId ← checkedU64 (pollId + 1)
  setMarket fun m => { m with nextPollId := some nextPollId }
  let stats ← getPlatformStats
  let totalPollsCreated ← checkedU64 (stats.totalPollsCreated + 1)
  setPlatformStats { stats with totalPollsCreated }
  publish (.pollCreated pollId)
  pure pollId

def getPoll (pollId : ℕ) : MarketCall N Poll := do
  let stored ← load (·.market.polls.lookup pollId)
  okOr stored .pollNotFound

inductive MarketOp where
  | initializeMarket (admin votingOracle tokenAddress treasuryAddress : Address)
      (platformFeeBps : ℕ)
  | setOracle (votingOracle : Address)
  | pause (admin : Address)
  | unpause (admin : Address)
  | cancelPoll (admin : Address) (pollId : ℕ)
  | emergencyWithdraw (user : Address) (pollId : ℕ)
  | createPoll (creator : Address) (matchId : ℕ) (question : String) (category : PollCategory)
      (lockTime : ℕ)
  | stake (staker : Address) (pollId : ℕ) (amount : ℤ) (side : StakeSide)
  | createMatch (admin : Address) (homeTeam awayTeam league venue : String) (kickoffTime : ℕ)
  | updateMatch (admin : Address) (matchId : ℕ)
      (homeTeam awayTeam league venue : Option String) (kickoffTime : Option ℕ)
  | finishMatch (admin : Address) (matchId : ℕ)
  deriving DecidableEq

inductive Value where
  | unit
  | amount (value : ℤ)
  | id (value : ℕ)
  | stake (record : Stake)
  | matchRecord (record : Match)
  deriving DecidableEq

def MarketOp.execute : MarketOp → MarketCall N Value
  | .initializeMarket admin votingOracle tokenAddress treasuryAddress platformFeeBps => do
      PredictionMarket.initializeMarket admin votingOracle tokenAddress treasuryAddress
        platformFeeBps
      pure .unit
  | .setOracle votingOracle => do
      PredictionMarket.setOracle votingOracle
      pure .unit
  | .pause admin => do
      PredictionMarket.pause admin
      pure .unit
  | .unpause admin => do
      PredictionMarket.unpause admin
      pure .unit
  | .cancelPoll admin pollId => do
      PredictionMarket.cancelPoll admin pollId
      pure .unit
  | .emergencyWithdraw user pollId => do
      let amount ← PredictionMarket.emergencyWithdraw user pollId
      pure (.amount amount)
  | .createPoll creator matchId question category lockTime => do
      let pollId ← PredictionMarket.createPoll creator matchId question category lockTime
      pure (.id pollId)
  | .stake staker pollId amount side => do
      let record ← Staking.stake staker pollId amount side
      pure (.stake record)
  | .createMatch admin homeTeam awayTeam league venue kickoffTime => do
      let matchId ← Matches.createMatch admin homeTeam awayTeam league venue kickoffTime
      pure (.id matchId)
  | .updateMatch admin matchId homeTeam awayTeam league venue kickoffTime => do
      let updated ← Matches.updateMatch admin matchId homeTeam awayTeam league venue kickoffTime
      pure (.matchRecord updated)
  | .finishMatch admin matchId => do
      Matches.finishMatch admin matchId
      pure .unit

end PredictX.PredictionMarket
