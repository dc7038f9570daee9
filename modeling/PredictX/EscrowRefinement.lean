import PredictX.Bookkeeping
import PredictX.Escrow

namespace PredictX.EscrowRefinement

open PredictX.Bookkeeping
open PredictX.CommittedCalls
open PredictX.Escrow
open PredictX.FiniteStore
open PredictX.HostCall
open PredictX.MarketStorage
open PredictX.PredictionMarket
open PredictX.SharedTypes
open PredictX.System
open PredictX.TokenContracts

abbrev AccountEvent := Escrow.Event (ℕ × Address) ℤ

variable {N : Network}

def marketBalance (w : World N) (token : Address) : ℤ := N.balance w.tokens token N.market

def accountEvent (e : Transaction N) : Option AccountEvent :=
  match e.input, e.output with
  | .market _ (.stake staker pollId amount _), .ok _ => some (.deposit (pollId, staker) amount)
  | .market _ (.emergencyWithdraw user pollId), .ok (.amount amount) =>
      some (.refund (pollId, user) amount)
  | _, _ => none

def directReceipt (token : Address) (e : Transaction N) : ℤ :=
  match e.input with
  | .outside _ => marketBalance e.after token - marketBalance e.before token
  | _ => 0

/-- The transaction as an event of the escrow kept in one token. -/
def ledgerEvent (token : Address) (e : Transaction N) : AccountEvent :=
  (accountEvent e).getD (.gift (directReceipt token e))

/-- A ledger stands where the books stand. -/
structure Represents (token : Address) (w : World N) (b : Books (ℕ × Address) ℤ) : Prop where
  deposited : ∀ k, b.deposited.lookup k = (w.market.stakes.lookup k).map (·.amount)
  repaid : ∀ pollId user, (pollId, user) ∈ b.repaid ↔
    w.market.hasEmergencyClaimed pollId user = true
  vault : b.vault = marketBalance w token

theorem accountEvent_rejected {w w' : World N} {a : Action N} {reply : Reply PredictXError Value}
    (h : ∀ value, reply ≠ .ok value) : accountEvent ⟨w, a, reply, w'⟩ = none := by
  unfold accountEvent
  split
  · rename_i hreply
    exact absurd hreply (h _)
  · rename_i hreply
    exact absurd hreply (h _)
  · rfl

theorem token_kept {w w' : World N} {a : Action N} {reply : Reply PredictXError Value}
    {token : Address} (hcons : Consistent N.market w.market) (hstep : Step w a reply w')
    (h : w.market.tokenAddress = some token) : w'.market.tokenAddress = some token := by
  cases hstep with
  | market committed =>
      cases committed with
      | initializeMarket fresh =>
          rw [hcons.configured.mpr fresh] at h
          simp at h
      | _ => exact h
  | _ => exact h

theorem token_of_mem {x : Execution N} {e : Transaction N} {token : Address} (he : e ∈ x.history)
    (h : e.before.market.tokenAddress = some token) :
    x.final.market.tokenAddress = some token := by
  obtain ⟨before, after, hactions, hbefore, -⟩ := x.exists_of_mem he
  have hx : x = ({ x with actions := before } : Execution N).andThen (e.input :: after) := by
    rw [Execution.andThen, ← hactions]
  rw [hbefore] at h
  rw [hx]
  exact invariant_later (P := fun w : World N => w.market.tokenAddress = some token) _ h
    (fun hcons hstep => token_kept hcons hstep) _

theorem Represents.held_eq {token : Address} {w : World N} {b : Books (ℕ × Address) ℤ}
    (h : Represents token w b) : b.held = total (unclaimedAmount w.market) w.market.stakes := by
  apply total_eq_of_weightAt
  intro k
  simp only [weightAt, h.deposited]
  cases w.market.stakes.lookup k with
  | none => rfl
  | some record =>
      cases hclaimed : w.market.hasEmergencyClaimed k.1 k.2 <;>
        simp [amountIf, unclaimedAmount, h.repaid, hclaimed]

theorem Represents.all_repaid {token : Address} {w : World N} {b : Books (ℕ × Address) ℤ}
    (h : Represents token w b)
    (hall : ∀ k ∈ w.market.stakes, w.market.hasEmergencyClaimed k.1 k.2 = true) :
    b.deposited.keys ⊆ b.repaid := by
  rintro ⟨pollId, user⟩ hk
  obtain ⟨amount, hamount⟩ := Finmap.mem_iff.mp (Finmap.mem_keys.mp hk)
  rw [h.deposited, Option.map_eq_some_iff] at hamount
  obtain ⟨record, hrecord, -⟩ := hamount
  rw [h.repaid]
  exact hall (pollId, user) (Finmap.mem_of_lookup_eq_some hrecord)

theorem Represents.idle {token : Address} {w w' : World N} {b : Books (ℕ × Address) ℤ}
    (h : Represents token w b) (hstakes : w'.market.stakes = w.market.stakes)
    (hclaimed : w'.market.emergencyClaimed = w.market.emergencyClaimed)
    (htokens : w'.tokens = w.tokens) : Represents token w' (b.gift 0) where
  deposited := by
    rw [hstakes]
    exact h.deposited
  repaid := by
    unfold Market.hasEmergencyClaimed
    rw [hclaimed]
    exact h.repaid
  vault := by
    change b.vault + 0 = _
    rw [add_zero, h.vault, marketBalance, marketBalance, htokens]

theorem books_step {w w' : World N} {a : Action N} {reply : Reply PredictXError Value}
    {token : Address} {g : ℤ} {h : List AccountEvent} {b : Books (ℕ × Address) ℤ}
    (hcons : Consistent N.market w.market) (hstep : Step w a reply w')
    (htoken : ∀ t, w.market.tokenAddress = some t → t = token)
    (hbooks : Replay g h b) (hrep : Represents token w b) :
    ∃ b', Replay g (h ++ [ledgerEvent token ⟨w, a, reply, w'⟩]) b' ∧ Represents token w' b' := by
  have hidle : ∀ {w'' : World N}, w''.market.stakes = w.market.stakes →
      w''.market.emergencyClaimed = w.market.emergencyClaimed → w''.tokens = w.tokens →
      ∃ b', Replay g (h ++ [.gift 0]) b' ∧ Represents token w'' b' := by
    intro w'' hstakes hclaimed htokens
    exact ⟨_, .gift 0 hbooks, hrep.idle hstakes hclaimed htokens⟩
  cases hstep with
  | rejected failed =>
      have hevent : ledgerEvent token ⟨w, a, reply, w⟩ = .gift 0 := by
        rw [ledgerEvent, accountEvent_rejected failed]
        cases a <;> simp [directReceipt]
      rw [hevent]
      exact hidle rfl rfl rfl
  | initializeOracle => exact hidle rfl rfl rfl
  | setPollStatus => exact hidle rfl rfl rfl
  | deployOracle => exact hidle rfl rfl rfl
  | elapse => exact hidle rfl rfl rfl
  | outside =>
      refine ⟨_, .gift _ hbooks, hrep.deposited, hrep.repaid, ?_⟩
      change b.vault + _ = _
      rw [hrep.vault]
      exact add_sub_cancel _ _
  | @market signatures op value _ committed =>
      cases committed with
      | emergencyWithdraw authorised unclaimed _ _ _ staked token_found transferred =>
          obtain rfl := htoken _ token_found
          have not_self := (hcons.record _ _ _ staked).not_self
          refine ⟨_, .refund _ _ hbooks (by rw [hrep.deposited, staked]; rfl)
            (by rw [hrep.repaid, unclaimed]; simp), hrep.deposited, ?_, ?_⟩
          · intro pollId' user'
            rw [hasEmergencyClaimed_refunded]
            simp only [Books.refund, Finset.mem_insert, hrep.repaid]
            split
            · simp [*]
            · simp [*]
          · change b.vault - _ = _
            rw [hrep.vault]
            exact (N.balance_src transferred (Ne.symm not_self)).symm
      | stake authorised _ minimum poll_found _ _ fresh token_found transferred _ record_eq =>
          subst record_eq
          obtain rfl := htoken _ token_found
          have hnone := hcons.stakes_fresh fresh
          have not_self := signer_ne_market authorised
          refine ⟨_, .deposit _ _ hbooks (by rw [hrep.deposited, hnone]; rfl), ?_, hrep.repaid, ?_⟩
          · intro k
            rw [stakes_staked]
            simp only [Books.deposit, lookup_insert_eq, hrep.deposited]
            split <;> rfl
          · change b.vault + _ = _
            rw [hrep.vault]
            exact (N.balance_dst transferred not_self).symm
      | _ => exact hidle rfl rfl rfl

theorem books_run (x : Execution N) {token : Address}
    (htoken : ∀ t, x.final.market.tokenAddress = some t → t = token) :
    ∃ b, Replay (N.balance x.tokens token N.market) (x.history.map (ledgerEvent token)) b ∧
      Represents token x.final b := by
  refine (x.induction (P := fun h w => Consistent N.market w.market ∧
      ((∀ t, w.market.tokenAddress = some t → t = token) →
        ∃ b, Replay (N.balance x.tokens token N.market) (h.map (ledgerEvent token)) b ∧
          Represents token w b)) ?_ ?_).2 htoken
  · refine ⟨consistent_deployed _, fun _ => ⟨_, .opened, ?_, ?_, rfl⟩⟩
    · simp [Books.opened, genesis, Market.deployed]
    · simp [Books.opened, genesis, Market.deployed, Market.hasEmergencyClaimed]
  · rintro h w a ⟨hcons, hbooks⟩
    have hstep := step_cases w a
    refine ⟨consistent_step hcons hstep, fun hconfigured => ?_⟩
    have hbefore : ∀ t, w.market.tokenAddress = some t → t = token :=
      fun t ht => hconfigured t (token_kept hcons hstep ht)
    obtain ⟨b, hreplay, hrep⟩ := hbooks hbefore
    rw [List.map_append]
    exact books_step hcons hstep hbefore hreplay hrep

/-- Before a token is configured the books of any token will do. -/
theorem exists_books (x : Execution N) :
    ∃ token g b, Replay g (x.history.map (ledgerEvent token)) b ∧ Represents token x.final b := by
  have htoken : ∀ t, x.final.market.tokenAddress = some t →
      t = x.final.market.tokenAddress.getD N.market := by
    intro t ht
    rw [ht]
    rfl
  obtain ⟨b, hreplay, hrep⟩ := books_run x htoken
  exact ⟨_, _, b, hreplay, hrep⟩

section Histories

variable (token : Address) (h : List (Transaction N))

theorem directReceipt_of_account {e : Transaction N} {event : AccountEvent}
    (he : accountEvent e = some event) : directReceipt token e = 0 ∧ event.received = 0 := by
  unfold accountEvent at he
  split at he
  · rename_i hinput _
    cases he
    simp [directReceipt, hinput, Event.received]
  · rename_i hinput _
    cases he
    simp [directReceipt, hinput, Event.received]
  · simp at he

theorem received_eq :
    ((h.map (ledgerEvent token)).map Event.received).sum = (h.map (directReceipt token)).sum := by
  rw [List.map_map]
  congr 1
  apply List.map_congr_left
  intro e _
  simp only [Function.comp_apply, ledgerEvent]
  cases he : accountEvent e with
  | none => rfl
  | some event =>
      obtain ⟨hreceipt, hevent⟩ := directReceipt_of_account token he
      rw [hreceipt]
      exact hevent

theorem sum_accountEvents (f : AccountEvent → ℤ) (hgift : ∀ a, f (.gift a) = 0) :
    ((h.map (ledgerEvent token)).map f).sum = ((h.filterMap accountEvent).map f).sum := by
  induction h with
  | nil => rfl
  | cons e h ih =>
      cases he : accountEvent e with
      | none => simpa [ledgerEvent, he, hgift] using ih
      | some event => simpa [ledgerEvent, he] using ih

end Histories

end PredictX.EscrowRefinement
