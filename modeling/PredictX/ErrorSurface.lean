import PredictX.CrowdedMatches
import PredictX.Pausing
import PredictX.Verdicts

namespace PredictX.ErrorSurface

open PredictX.Bookkeeping
open PredictX.CrowdedMatches
open PredictX.HostCall
open PredictX.Identifiers
open PredictX.MarketStorage
open PredictX.OrderedChecks
open PredictX.Pausing
open PredictX.PredictionMarket
open PredictX.Refunds
open PredictX.Settlement
open PredictX.SharedTypes
open PredictX.System
open PredictX.TokenContracts
open PredictX.Verdicts

inductive EntryPoint where
  | initializeMarket
  | setOracle
  | pause
  | unpause
  | cancelPoll
  | emergencyWithdraw
  | createPoll
  | stake
  | createMatch
  | updateMatch
  | finishMatch
  deriving DecidableEq

def entryPoint : MarketOp → EntryPoint
  | .initializeMarket .. => .initializeMarket
  | .setOracle _ => .setOracle
  | .pause _ => .pause
  | .unpause _ => .unpause
  | .cancelPoll .. => .cancelPoll
  | .emergencyWithdraw .. => .emergencyWithdraw
  | .createPoll .. => .createPoll
  | .stake .. => .stake
  | .createMatch .. => .createMatch
  | .updateMatch .. => .updateMatch
  | .finishMatch .. => .finishMatch

def surface : EntryPoint → List PredictXError
  | .initializeMarket => [.alreadyInitialized]
  | .setOracle => [.emergencyWithdrawNotAllowed, .notInitialized]
  | .pause | .unpause => [.notInitialized, .unauthorized]
  | .cancelPoll => [.emergencyWithdrawNotAllowed, .notInitialized, .unauthorized]
  | .emergencyWithdraw =>
      [.alreadyClaimed, .notInitialized, .emergencyWithdrawNotAllowed, .notStaker]
  | .createPoll =>
      [.emergencyWithdrawNotAllowed, .matchNotFound, .invalidLockTime, .maxPollsPerMatchReached]
  | .stake =>
      [.emergencyWithdrawNotAllowed, .stakeAmountZero, .stakeBelowMinimum, .pollNotFound,
        .pollLocked, .alreadyStaked]
  | .createMatch => [.notInitialized, .unauthorized, .invalidLockTime]
  | .updateMatch =>
      [.notInitialized, .unauthorized, .matchNotFound, .matchAlreadyStarted, .invalidLockTime]
  | .finishMatch => [.notInitialized, .unauthorized, .matchNotFound]

/-- The errors of the oracle and of the token that a caller can be told. -/
def relayed : EntryPoint → List PredictXError
  | .cancelPoll => [.notInitialized]
  | .emergencyWithdraw | .stake => (List.range 35).filterMap PredictXError.ofCode
  | _ => []

section Lists

variable {N : Network} (signatures : Signatures N) (w : World N) (op : MarketOp)

theorem reasons_subset :
    (checks signatures w op).filterMap Check.reason ⊆ surface (entryPoint op) := by
  cases op with
  | stake staker pollId amount side =>
      rw [checks, List.filterMap_append]
      cases w.market.polls.lookup pollId with
      | none => exact List.subset_append_left _ [PredictXError.pollLocked, .alreadyStaked]
      | some poll => exact List.Subset.refl _
  | _ => exact List.Subset.refl _

theorem exists_code (reason : PredictXError) :
    ∃ code ∈ List.range 35, PredictXError.ofCode code = some reason := by
  cases reason <;> decide

theorem relayed_subset :
    (checks signatures w op).filterMap Check.passedOn ⊆ relayed (entryPoint op) := by
  cases op with
  | stake | emergencyWithdraw =>
      intro reason _
      exact List.mem_filterMap.mpr (exists_code reason)
  | _ => exact List.Subset.refl _

end Lists

section Sound

variable {N : Network} (x : Execution N) (signatures : Signatures N) (op : MarketOp)
  {reason : PredictXError}

theorem surface_sound (h : (step x.final (.market signatures op)).1 = .error reason) :
    reason ∈ surface (entryPoint op) := by
  rw [step_verdict (consistent_run x) (numbered_run x) (unsettled_run x)] at h
  exact reasons_subset signatures x.final op (reason_of_verdict h)

theorem relayed_sound (h : (step x.final (.market signatures op)).1 = .trap (some reason)) :
    reason ∈ relayed (entryPoint op) := by
  rw [step_verdict (consistent_run x) (numbered_run x) (unsettled_run x)] at h
  exact relayed_subset signatures x.final op (passedOn_of_verdict h)

end Sound

def blankRun : Execution sampleNetwork where
  start := 100
  tokens := sampleTokens
  actions := []

/-- A run after which the call returns the error. -/
def provocation : EntryPoint → PredictXError → Execution sampleNetwork × MarketOp
  | .initializeMarket, _ => (sampleRun [], .initializeMarket ⟨6⟩ ⟨2⟩ ⟨3⟩ ⟨4⟩ 0)
  | .setOracle, .notInitialized => (blankRun, .setOracle ⟨2⟩)
  | .setOracle, _ => (haltedRun, .setOracle ⟨2⟩)
  | .pause, .notInitialized => (blankRun, .pause ⟨1⟩)
  | .pause, _ => (sampleRun [], .pause ⟨5⟩)
  | .unpause, .notInitialized => (blankRun, .unpause ⟨1⟩)
  | .unpause, _ => (haltedRun, .unpause ⟨5⟩)
  | .cancelPoll, .notInitialized => (blankRun, .cancelPoll ⟨1⟩ 1)
  | .cancelPoll, .unauthorized => (sampleRun [], .cancelPoll ⟨5⟩ 1)
  | .cancelPoll, _ => (haltedRun, .cancelPoll ⟨1⟩ 1)
  | .emergencyWithdraw, .notInitialized => (blankRun, .emergencyWithdraw ⟨5⟩ 1)
  | .emergencyWithdraw, .emergencyWithdrawNotAllowed => (sampleRun [], .emergencyWithdraw ⟨5⟩ 1)
  | .emergencyWithdraw, .notStaker => (cancelledRun, .emergencyWithdraw ⟨7⟩ 1)
  | .emergencyWithdraw, _ =>
      (cancelledRun.andThen [.market allSign (.emergencyWithdraw ⟨5⟩ 1)],
        .emergencyWithdraw ⟨5⟩ 1)
  | .createPoll, .matchNotFound => (sampleRun [], .createPoll ⟨5⟩ 2 "Penalty?" .other 1000)
  | .createPoll, .invalidLockTime => (sampleRun [], .createPoll ⟨5⟩ 1 "Penalty?" .other 100)
  | .createPoll, .maxPollsPerMatchReached =>
      (crowdedRun, .createPoll ⟨5⟩ 1 "Penalty?" .other 1000)
  | .createPoll, _ => (haltedRun, .createPoll ⟨5⟩ 1 "Penalty?" .other 1000)
  | .stake, .stakeAmountZero => (sampleRun [], .stake ⟨5⟩ 1 0 .yes)
  | .stake, .stakeBelowMinimum => (sampleRun [], .stake ⟨5⟩ 1 9999999 .yes)
  | .stake, .pollNotFound => (sampleRun [], .stake ⟨5⟩ 2 20000000 .yes)
  | .stake, .pollLocked => (sampleRun [.elapse 900], .stake ⟨5⟩ 1 20000000 .yes)
  | .stake, .alreadyStaked => (cancelledRun, .stake ⟨5⟩ 1 20000000 .no)
  | .stake, _ => (haltedRun, .stake ⟨5⟩ 1 20000000 .yes)
  | .createMatch, .notInitialized =>
      (blankRun, .createMatch ⟨1⟩ "Home" "Away" "League" "Venue" 2000)
  | .createMatch, .unauthorized =>
      (sampleRun [], .createMatch ⟨5⟩ "Home" "Away" "League" "Venue" 2000)
  | .createMatch, _ => (sampleRun [], .createMatch ⟨1⟩ "Home" "Away" "League" "Venue" 100)
  | .updateMatch, .notInitialized => (blankRun, .updateMatch ⟨1⟩ 1 none none none none none)
  | .updateMatch, .unauthorized => (sampleRun [], .updateMatch ⟨5⟩ 1 none none none none none)
  | .updateMatch, .matchNotFound => (sampleRun [], .updateMatch ⟨1⟩ 2 none none none none none)
  | .updateMatch, .matchAlreadyStarted =>
      (sampleRun [.elapse 1900], .updateMatch ⟨1⟩ 1 none none none none none)
  | .updateMatch, _ => (sampleRun [], .updateMatch ⟨1⟩ 1 none none none none (some 100))
  | .finishMatch, .notInitialized => (blankRun, .finishMatch ⟨1⟩ 1)
  | .finishMatch, .unauthorized => (sampleRun [], .finishMatch ⟨5⟩ 1)
  | .finishMatch, _ => (sampleRun [], .finishMatch ⟨1⟩ 2)

theorem provocation_errs {point : EntryPoint} {reason : PredictXError} (h : reason ∈ surface point) :
    entryPoint (provocation point reason).2 = point ∧
      (step (provocation point reason).1.final
        (.market allSign (provocation point reason).2)).1 = .error reason := by
  have hall : ∀ reason ∈ surface point, entryPoint (provocation point reason).2 = point ∧
      (step (provocation point reason).1.final
        (.market allSign (provocation point reason).2)).1 = .error reason := by
    cases point <;> decide +kernel
  exact hall reason h

section Relays

/-- The oracle of this market has no admin. -/
def leaderlessRun : Execution sampleNetwork where
  start := 100
  tokens := sampleTokens
  actions := [.deployOracle ⟨2⟩, .market allSign (.initializeMarket ⟨1⟩ ⟨2⟩ ⟨3⟩ ⟨4⟩ 500)]

variable (code : ℕ)

/-- A token that only 5 can send, and that fails with one error code. -/
def grudgingNetwork : Network where
  toTokens :=
    { sampleNetwork.toTokens with
      transfer := fun s token signed src dst amount =>
        if src = ⟨5⟩ then sampleNetwork.transfer s token signed src dst amount else none
      transferError := fun _ _ _ _ _ _ => some code
      transfer_nonneg := by
        intro s s' token signed src dst amount h
        split at h
        · exact sampleNetwork.transfer_nonneg h
        · cases h
      transfer_balance := by
        intro s s' token signed src dst amount h
        split at h
        · exact sampleNetwork.transfer_balance h
        · cases h }
  market := ⟨0⟩

def grudgingSign : Signatures (grudgingNetwork code) where
  accepts := allSign.accepts
  market_silent := allSign.market_silent

def grudgingRun : Execution (grudgingNetwork code) where
  start := 100
  tokens := sampleTokens
  actions := sampleSetup (grudgingSign code) ++
    [.market (grudgingSign code) (.stake ⟨5⟩ 1 20000000 .yes),
      .market (grudgingSign code) (.cancelPoll ⟨1⟩ 1)]

theorem grudgingRun_relays : ∀ code ∈ List.range 35,
    (step (grudgingRun code).final
        (.market (grudgingSign code) (.stake ⟨6⟩ 1 20000000 .no))).1 =
          .trap (PredictXError.ofCode code) ∧
      (step (grudgingRun code).final
        (.market (grudgingSign code) (.emergencyWithdraw ⟨5⟩ 1))).1 =
          .trap (PredictXError.ofCode code) := by
  decide +kernel

theorem relayed_complete {point : EntryPoint} {reason : PredictXError}
    (h : reason ∈ relayed point) :
    ∃ (N : Network) (x : Execution N) (signatures : Signatures N) (op : MarketOp),
      entryPoint op = point ∧ (step x.final (.market signatures op)).1 = .trap (some reason) := by
  obtain ⟨code, hcode, hreason⟩ := exists_code reason
  obtain ⟨hstake, hwithdraw⟩ := grudgingRun_relays code hcode
  rw [hreason] at hstake hwithdraw
  cases point with
  | stake => exact ⟨_, _, _, _, rfl, hstake⟩
  | emergencyWithdraw => exact ⟨_, _, _, _, rfl, hwithdraw⟩
  | cancelPoll =>
      cases List.mem_singleton.mp h
      exact ⟨_, leaderlessRun, allSign, .cancelPoll ⟨1⟩ 1, rfl, by decide +kernel⟩
  | _ => exact absurd h List.not_mem_nil

end Relays

theorem surface_iff (point : EntryPoint) (reason : PredictXError) : reason ∈ surface point ↔
    ∃ (N : Network) (x : Execution N) (signatures : Signatures N) (op : MarketOp),
      entryPoint op = point ∧ (step x.final (.market signatures op)).1 = .error reason := by
  constructor
  · exact fun hmem => ⟨_, _, _, _, provocation_errs hmem⟩
  · rintro ⟨N, x, signatures, op, rfl, herror⟩
    exact surface_sound x signatures op herror

theorem relayed_iff (point : EntryPoint) (reason : PredictXError) : reason ∈ relayed point ↔
    ∃ (N : Network) (x : Execution N) (signatures : Signatures N) (op : MarketOp),
      entryPoint op = point ∧
        (step x.final (.market signatures op)).1 = .trap (some reason) := by
  constructor
  · exact relayed_complete
  · rintro ⟨N, x, signatures, op, rfl, hrelayed⟩
    exact relayed_sound x signatures op hrelayed

/-- The lists of an entry point are exact: they hold the errors that some call
of it returns, and those that some call of it passes on, in some reachable
state.  Together these are the errors a caller can be told. -/
theorem mem_surface_iff (point : EntryPoint) (reason : PredictXError) :
    (reason ∈ surface point ↔
      ∃ (N : Network) (x : Execution N) (signatures : Signatures N) (op : MarketOp),
        entryPoint op = point ∧ (step x.final (.market signatures op)).1 = .error reason) ∧
      (reason ∈ relayed point ↔
        ∃ (N : Network) (x : Execution N) (signatures : Signatures N) (op : MarketOp),
          entryPoint op = point ∧
            (step x.final (.market signatures op)).1 = .trap (some reason)) ∧
      (reason ∈ surface point ∨ reason ∈ relayed point ↔
        ∃ (N : Network) (x : Execution N) (signatures : Signatures N) (op : MarketOp),
          entryPoint op = point ∧
            (step x.final (.market signatures op)).1.reported = some reason) := by
  have hown := surface_iff point reason
  have hrelayed := relayed_iff point reason
  refine ⟨hown, hrelayed, ?_⟩
  rw [hown, hrelayed]
  constructor
  · rintro (⟨N, x, signatures, op, hpoint, hreply⟩ | ⟨N, x, signatures, op, hpoint, hreply⟩)
    · exact ⟨N, x, signatures, op, hpoint, Reply.reported_eq_some.mpr (.inl hreply)⟩
    · exact ⟨N, x, signatures, op, hpoint, Reply.reported_eq_some.mpr (.inr hreply)⟩
  · rintro ⟨N, x, signatures, op, hpoint, hreply⟩
    rcases Reply.reported_eq_some.mp hreply with herror | htrap
    · exact .inl ⟨N, x, signatures, op, hpoint, herror⟩
    · exact .inr ⟨N, x, signatures, op, hpoint, htrap⟩

end PredictX.ErrorSurface
