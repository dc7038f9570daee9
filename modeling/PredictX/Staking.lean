import PredictX.TokenUtils

namespace PredictX.Staking

open PredictX.HostCall.Call
open PredictX.MarketStorage
open PredictX.SharedTypes
open PredictX.SorobanHost
open PredictX.TokenContracts
open PredictX.TokenUtils

variable {N : Network}

def updatePoolTotals (poll : Poll) (amount : ℤ) : StakeSide → MarketCall N Poll
  | .yes => do
      let yesPool ← checkedI128 (poll.yesPool + amount)
      let yesCount ← checkedU32 (poll.yesCount + 1)
      pure { poll with yesPool, yesCount }
  | .no => do
      let noPool ← checkedI128 (poll.noPool + amount)
      let noCount ← checkedU32 (poll.noCount + 1)
      pure { poll with noPool, noCount }

/-- Place a stake on a poll outcome: checks, then the transfer, then the
records. -/
def stake (staker : Address) (pollId : ℕ) (amount : ℤ) (side : StakeSide) :
    MarketCall N Stake := do
  requireAuth staker
  ensureNotPaused
  failIf (amount ≤ 0) .stakeAmountZero
  failIf (amount < minStakeAmount) .stakeBelowMinimum
  let poll ← load (·.market.polls.lookup pollId)
  let poll ← okOr poll .pollNotFound
  failIf (poll.status ≠ .active) .pollNotActive
  let now ← timestamp
  failIf (poll.lockTime ≤ now) .pollLocked
  let hasStaked ← load fun w => decide ((pollId, staker) ∈ w.market.hasStaked)
  failIf (hasStaked = true) .alreadyStaked
  transferToContract staker amount
  let stakeRecord : Stake :=
    { user := staker, pollId, amount, side, claimed := false, stakedAt := now }
  setMarket fun m => { m with stakes := m.stakes.insert (pollId, staker) stakeRecord }
  setMarket fun m => { m with hasStaked := m.hasStaked.insert (pollId, staker) true }
  let poll ← updatePoolTotals poll amount side
  setMarket fun m => { m with polls := m.polls.insert pollId poll }
  let userStakes ← load (·.market.userStakesOf staker)
  setMarket fun m => { m with userStakes := m.userStakes.insert staker (userStakes ++ [pollId]) }
  let stats ← getPlatformStats
  let totalValueLocked ← checkedI128 (stats.totalValueLocked + amount)
  let totalStakesPlaced ← checkedU64 (stats.totalStakesPlaced + 1)
  setPlatformStats { stats with totalValueLocked, totalStakesPlaced }
  publish (.stakePlaced pollId staker amount side)
  pure stakeRecord

def getStakeInfo (pollId : ℕ) (user : Address) : MarketCall N Stake := do
  let stored ← load (·.market.stakes.lookup (pollId, user))
  okOr stored .notStaker

def getUserStakes (user : Address) : MarketCall N (List ℕ) :=
  load (·.market.userStakesOf user)

def hasUserStaked (pollId : ℕ) (user : Address) : MarketCall N Bool :=
  load fun w => decide ((pollId, user) ∈ w.market.hasStaked)

def poolOnSide (poll : Poll) : StakeSide → ℤ
  | .yes => poll.yesPool
  | .no => poll.noPool

/-- The preview computes the triple product before it divides. -/
def calculatePotentialWinnings (pollId : ℕ) (side : StakeSide) (amount : ℤ) :
    MarketCall N ℤ := do
  failIf (amount ≤ 0) .stakeAmountZero
  let poll ← load (·.market.polls.lookup pollId)
  let poll ← okOr poll .pollNotFound
  let poolOnSideAfter ← checkedI128 (poolOnSide poll side + amount)
  let totalPool ← checkedI128 (poll.yesPool + poll.noPool)
  let totalPoolAfter ← checkedI128 (totalPool + amount)
  let feeBps ← getPlatformFeeBps
  let feeFactor ← checkedSubU32 bpsDenominator feeBps
  let gross ← checkedI128 (amount * totalPoolAfter)
  let net ← checkedI128 (gross * feeFactor)
  let divisor ← checkedI128 (poolOnSideAfter * bpsDenominator)
  checkedDivI128 net divisor

def getPoolInfo (pollId : ℕ) : MarketCall N PoolInfo := do
  let poll ← load (·.market.polls.lookup pollId)
  let poll ← okOr poll .pollNotFound
  pure
    { yesPool := poll.yesPool
      noPool := poll.noPool
      yesCount := poll.yesCount
      noCount := poll.noCount }

end PredictX.Staking
