import Mathlib.Data.Int.Notation
import Mathlib.Data.Nat.Notation

namespace PredictX.SharedTypes

/-- A ledger address, of an account or of a contract. -/
structure Address where
  raw : ℕ
  deriving DecidableEq, Repr

inductive PredictXError where
  | notInitialized
  | alreadyInitialized
  | unauthorized
  | pollNotFound
  | pollNotActive
  | pollLocked
  | pollNotLocked
  | pollAlreadyResolved
  | insufficientBalance
  | stakeAmountZero
  | alreadyStaked
  | notStaker
  | alreadyClaimed
  | notOnWinningSide
  | votingNotOpen
  | alreadyVoted
  | voterIsStaker
  | votingWindowExpired
  | disputeAlreadyOpen
  | disputeFeeRequired
  | invalidPollCategory
  | invalidLockTime
  | matchNotFound
  | matchAlreadyStarted
  | pollQuestionTooLong
  | maxPollsPerMatchReached
  | invalidOutcome
  | consensusNotReached
  | adminAlreadyRegistered
  | insufficientAdminApprovals
  | emergencyWithdrawNotAllowed
  | transferFailed
  | contractPaused
  | stakeBelowMinimum
  deriving DecidableEq, Repr

/-- The error with this code; other codes belong to other contracts. -/
def PredictXError.ofCode : ℕ → Option PredictXError
  | 1 => some .notInitialized
  | 2 => some .alreadyInitialized
  | 3 => some .unauthorized
  | 4 => some .pollNotFound
  | 5 => some .pollNotActive
  | 6 => some .pollLocked
  | 7 => some .pollNotLocked
  | 8 => some .pollAlreadyResolved
  | 9 => some .insufficientBalance
  | 10 => some .stakeAmountZero
  | 11 => some .alreadyStaked
  | 12 => some .notStaker
  | 13 => some .alreadyClaimed
  | 14 => some .notOnWinningSide
  | 15 => some .votingNotOpen
  | 16 => some .alreadyVoted
  | 17 => some .voterIsStaker
  | 18 => some .votingWindowExpired
  | 19 => some .disputeAlreadyOpen
  | 20 => some .disputeFeeRequired
  | 21 => some .invalidPollCategory
  | 22 => some .invalidLockTime
  | 23 => some .matchNotFound
  | 24 => some .matchAlreadyStarted
  | 25 => some .pollQuestionTooLong
  | 26 => some .maxPollsPerMatchReached
  | 27 => some .invalidOutcome
  | 28 => some .consensusNotReached
  | 29 => some .adminAlreadyRegistered
  | 30 => some .insufficientAdminApprovals
  | 31 => some .emergencyWithdrawNotAllowed
  | 32 => some .transferFailed
  | 33 => some .contractPaused
  | 34 => some .stakeBelowMinimum
  | _ => none

/-- Lifecycle state of a poll. -/
inductive PollStatus where
  | active
  | locked
  | voting
  | adminReview
  | disputed
  | resolved
  | cancelled
  deriving DecidableEq, Repr

inductive PollCategory where
  | playerEvent
  | teamEvent
  | scorePrediction
  | other
  deriving DecidableEq, Repr

/-- Which side of a poll a user staked on. -/
inductive StakeSide where
  | yes
  | no
  deriving DecidableEq, Repr

def StakeSide.opposite : StakeSide → StakeSide
  | .yes => .no
  | .no => .yes

/-- A football match that polls are grouped under. -/
structure Match where
  matchId : ℕ
  homeTeam : String
  awayTeam : String
  league : String
  venue : String
  kickoffTime : ℕ
  createdBy : Address
  isFinished : Bool
  deriving DecidableEq, Repr

/-- A prediction market poll belonging to a match. -/
structure Poll where
  pollId : ℕ
  matchId : ℕ
  creator : Address
  question : String
  category : PollCategory
  lockTime : ℕ
  yesPool : ℤ
  noPool : ℤ
  yesCount : ℕ
  noCount : ℕ
  status : PollStatus
  outcome : Option Bool
  resolutionTime : ℕ
  createdAt : ℕ
  deriving DecidableEq, Repr

/-- A single user's stake on a poll. -/
structure Stake where
  user : Address
  pollId : ℕ
  amount : ℤ
  side : StakeSide
  claimed : Bool
  stakedAt : ℕ
  deriving DecidableEq, Repr

/-- Platform-wide aggregate statistics. -/
structure PlatformStats where
  totalValueLocked : ℤ
  totalPollsCreated : ℕ
  totalStakesPlaced : ℕ
  totalPayouts : ℤ
  totalUsers : ℕ
  deriving DecidableEq, Repr

/-- Default platform fee in basis points. -/
def platformFeeBps : ℕ := 500

/-- Maximum number of polls that can be attached to a single match. -/
def maxPollsPerMatch : ℕ := 50

/-- Basis points denominator. -/
def bpsDenominator : ℕ := 10000

/-- Seven days. -/
def emergencyTimeoutSecs : ℕ := 7 * 24 * 60 * 60

/-- Minimum stake amount in token base units. -/
def minStakeAmount : ℤ := 10000000

theorem pos_of_minimum {amount : ℤ} (h : minStakeAmount ≤ amount) : 0 < amount :=
  Int.lt_of_lt_of_le (by decide) h

end PredictX.SharedTypes
