import PredictX.Bookkeeping

namespace PredictX.Settlement

open PredictX.Bookkeeping
open PredictX.CommittedCalls
open PredictX.HostCall
open PredictX.MarketStorage
open PredictX.PredictionMarket
open PredictX.SharedTypes
open PredictX.System
open PredictX.TokenContracts

variable {N : Network}

/-- A poll whose lifecycle has not left its first state. -/
structure OpenPoll (poll : Poll) : Prop where
  active : poll.status = .active
  undecided : poll.outcome = none
  unresolved : poll.resolutionTime = 0

/-- Nothing was decided, claimed or paid out. -/
structure Unsettled (m : Market) : Prop where
  polls : ∀ pollId poll, m.polls.lookup pollId = some poll → OpenPoll poll
  stakes : ∀ k record, m.stakes.lookup k = some record → record.claimed = false
  payouts : m.stats.totalPayouts = 0
  users : m.stats.totalUsers = 0

theorem OpenPoll.credited {poll : Poll} (h : OpenPoll poll) (amount : ℤ) (side : StakeSide) :
    OpenPoll (credited poll amount side) := by
  cases side with
  | yes => exact { h with }
  | no => exact { h with }

theorem unsettled_deployed : Unsettled .deployed where
  polls := by simp [Market.deployed]
  stakes := by simp [Market.deployed]
  payouts := rfl
  users := rfl

theorem unsettled_step {w w' : World N} {a : Action N} {reply : Reply PredictXError Value}
    (hstep : Step w a reply w') (h : Unsettled w.market) : Unsettled w'.market := by
  cases hstep with
  | market committed =>
      cases committed with
      | createPoll _ _ _ _ _ _ _ poll_eq =>
          subst poll_eq
          refine { h with polls := ?_ }
          intro pollId poll hpoll
          rw [polls_pollAdded] at hpoll
          split at hpoll
          · cases hpoll
            exact ⟨rfl, rfl, rfl⟩
          · exact h.polls pollId poll hpoll
      | stake _ _ _ poll_found _ _ _ _ _ _ record_eq =>
          subst record_eq
          refine { h with polls := ?_, stakes := ?_ }
          · intro pollId poll hpoll
            rw [polls_staked] at hpoll
            split at hpoll
            · cases hpoll
              exact (h.polls _ _ poll_found).credited _ _
            · exact h.polls pollId poll hpoll
          · intro k record hrecord
            rw [stakes_staked] at hrecord
            split at hrecord
            · cases hrecord
              rfl
            · exact h.stakes k record hrecord
      | _ => exact { h with }
  | _ => exact h

theorem unsettled_run (x : Execution N) : Unsettled x.final.market :=
  x.induction (P := fun _ w => Unsettled w.market) unsettled_deployed
    fun _ _ _ h => unsettled_step (step_cases _ _) h

/-- In every reachable state every poll is still active and undecided, no
stake counts as claimed, and no payout or user was ever counted. -/
theorem nothing_settled (x : Execution N) :
    (∀ pollId poll, x.final.market.polls.lookup pollId = some poll →
        poll.status = .active ∧ poll.outcome = none ∧ poll.resolutionTime = 0) ∧
      (∀ k record, x.final.market.stakes.lookup k = some record → record.claimed = false) ∧
      x.final.market.stats.totalPayouts = 0 ∧ x.final.market.stats.totalUsers = 0 := by
  have hopen := unsettled_run x
  refine ⟨?_, hopen.stakes, hopen.payouts, hopen.users⟩
  intro pollId poll hpoll
  have hpollOpen := hopen.polls pollId poll hpoll
  exact ⟨hpollOpen.active, hpollOpen.undecided, hpollOpen.unresolved⟩

end PredictX.Settlement
