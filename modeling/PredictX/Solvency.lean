import PredictX.EscrowRefinement

namespace PredictX.Solvency

open PredictX.Bookkeeping
open PredictX.Escrow
open PredictX.EscrowRefinement
open PredictX.FiniteStore
open PredictX.HostCall
open PredictX.LabelledRuns
open PredictX.MarketStorage
open PredictX.PredictionMarket
open PredictX.SharedTypes
open PredictX.System
open PredictX.TokenContracts

variable {N : Network}

/-- What others sent to the market directly, before its deployment or since. -/
def directFunds (x : Execution N) (token : Address) : ℤ :=
  N.balance x.tokens token N.market + (x.history.map (directReceipt token)).sum

theorem balance_run (x : Execution N) {token : Address}
    (htoken : x.final.market.tokenAddress = some token) :
    marketBalance x.final token =
      total (unclaimedAmount x.final.market) x.final.market.stakes + directFunds x token := by
  have honly : ∀ t, x.final.market.tokenAddress = some t → t = token := by
    intro t ht
    rw [htoken] at ht
    exact (Option.some.inj ht).symm
  obtain ⟨b, hreplay, hrep⟩ := books_run x honly
  have hgifts := hreplay.gifts_eq
  rw [received_eq] at hgifts
  rw [← hrep.vault, b.vault_eq, hgifts, ← hrep.held_eq, add_comm]
  rfl

theorem directReceipt_nonneg {w w' : World N} {a : Action N} {reply : Reply PredictXError Value}
    (hstep : Step w a reply w') (token : Address) :
    0 ≤ directReceipt token ⟨w, a, reply, w'⟩ := by
  cases hstep with
  | outside => exact sub_nonneg.mpr (OutsideActivity.market_keeps _ _ _)
  | rejected => cases a <;> simp [directReceipt]
  | _ => exact le_rfl

theorem directFunds_nonneg (x : Execution N) (token : Address) : 0 ≤ directFunds x token := by
  apply add_nonneg (N.balance_nonneg _ _ _)
  apply List.sum_nonneg
  intro receipt hreceipt
  obtain ⟨e, he, rfl⟩ := List.mem_map.mp hreceipt
  exact directReceipt_nonneg (Execution.step_of_mem he) token

theorem directFunds_andThen (x : Execution N) (token : Address) {later : List (Action N)}
    (hcalls : ∀ a ∈ later, ∀ activity, a ≠ .outside activity) :
    directFunds (x.andThen later) token = directFunds x token := by
  have hnone : ((trace step x.final later).map (directReceipt token)).sum = 0 := by
    apply List.sum_eq_zero
    intro receipt hreceipt
    obtain ⟨e, he, rfl⟩ := List.mem_map.mp hreceipt
    obtain ⟨_, _, hactions, -⟩ := exists_of_mem_trace he
    have hinput : e.input ∈ later := by simp [hactions]
    unfold directReceipt
    split
    · rename_i activity heq
      exact absurd heq (hcalls _ hinput activity)
    · rfl
  rw [directFunds, Execution.history_andThen, List.map_append, List.sum_append, hnone, add_zero]
  rfl

/-- In every reachable state the locked value is the sum of the stakes not
paid back, and the market's balance exceeds it by exactly the tokens others
sent to it. -/
theorem solvency (x : Execution N) :
    x.final.market.stats.totalValueLocked =
        total (unclaimedAmount x.final.market) x.final.market.stakes ∧
      0 ≤ total (unclaimedAmount x.final.market) x.final.market.stakes ∧
      ∀ token, x.final.market.tokenAddress = some token →
        total (unclaimedAmount x.final.market) x.final.market.stakes ≤
            marketBalance x.final token ∧
          marketBalance x.final token -
              total (unclaimedAmount x.final.market) x.final.market.stakes =
            directFunds x token := by
  have hcons := consistent_run x
  refine ⟨hcons.locked, hcons.unclaimed_nonneg, ?_⟩
  intro token htoken
  have hbalance := balance_run x htoken
  have hfunds := directFunds_nonneg x token
  constructor
  · omega
  · omega

section Refunds

variable {w w' : World N} {a : Action N} {reply : Reply PredictXError Value}

end Refunds

end PredictX.Solvency
