import Mathlib.Algebra.BigOperators.Group.List.Basic
import PredictX.FiniteStore

/-!
Escrow in the abstract: amounts deposited under fresh keys, each paid back at
most once and in full, with other receipts kept apart.  The books carry the
proof that the vault covers what is still held.
-/

namespace PredictX.Escrow

open PredictX.FiniteStore

inductive Event (κ M : Type) where
  | deposit (key : κ) (amount : M)
  | refund (key : κ) (amount : M)
  | gift (amount : M)

variable {κ M : Type} [DecidableEq κ] [AddCommGroup M]

def amountIf (c : κ → Prop) [DecidablePred c] (k : κ) (a : M) : M := if c k then a else 0

structure Books (κ M : Type) [DecidableEq κ] [AddCommGroup M] where
  deposited : Store κ M
  repaid : Finset κ
  gifts : M
  vault : M
  repaid_deposited : repaid ⊆ deposited.keys
  vault_eq : vault = gifts + total (amountIf (· ∉ repaid)) deposited

namespace Books

/-- What is deposited and not repaid. -/
def held (b : Books κ M) : M := total (amountIf (· ∉ b.repaid)) b.deposited

def opened (κ : Type) [DecidableEq κ] (gifts : M) : Books κ M where
  deposited := ∅
  repaid := ∅
  gifts := gifts
  vault := gifts
  repaid_deposited := Finset.empty_subset _
  vault_eq := by simp

theorem not_repaid {b : Books κ M} {k : κ} (h : b.deposited.lookup k = none) : k ∉ b.repaid := by
  intro hk
  exact notMem_of_lookup_none h (b.repaid_deposited hk)

theorem held_deposit {b : Books κ M} {k : κ} (a : M) (h : b.deposited.lookup k = none) :
    total (amountIf (· ∉ b.repaid)) (b.deposited.insert k a) =
      total (amountIf (· ∉ b.repaid)) b.deposited + a := by
  rw [total_insert_new _ _ h, amountIf, if_pos (not_repaid h)]

theorem held_refund {b : Books κ M} {k : κ} {a : M} (h : b.deposited.lookup k = some a)
    (hk : k ∉ b.repaid) :
    total (amountIf (· ∉ insert k b.repaid)) b.deposited + a =
      total (amountIf (· ∉ b.repaid)) b.deposited := by
  have hsum : total (amountIf (· ∉ insert k b.repaid)) b.deposited + amountIf (· ∉ b.repaid) k a =
      total (amountIf (· ∉ b.repaid)) b.deposited + amountIf (· ∉ insert k b.repaid) k a := by
    rw [← weightAt_of_lookup (amountIf (· ∉ b.repaid)) h,
      ← weightAt_of_lookup (amountIf (· ∉ insert k b.repaid)) h]
    apply total_reweight k
    intro k' v hne
    simp [amountIf, hne]
  simpa [amountIf, hk] using hsum

def deposit (b : Books κ M) (k : κ) (a : M) (h : b.deposited.lookup k = none) : Books κ M where
  deposited := b.deposited.insert k a
  repaid := b.repaid
  gifts := b.gifts
  vault := b.vault + a
  repaid_deposited := by
    rw [keys_insert]
    exact b.repaid_deposited.trans (Finset.subset_insert k _)
  vault_eq := by rw [held_deposit a h, b.vault_eq, add_assoc]

/-- The repayment of a deposit, once and in full. -/
def refund (b : Books κ M) (k : κ) (a : M) (h : b.deposited.lookup k = some a)
    (hk : k ∉ b.repaid) : Books κ M where
  deposited := b.deposited
  repaid := insert k b.repaid
  gifts := b.gifts
  vault := b.vault - a
  repaid_deposited := Finset.insert_subset (mem_keys_of_lookup h) b.repaid_deposited
  vault_eq := by
    rw [b.vault_eq, ← held_refund h hk]
    abel

/-- A receipt nobody has a claim on. -/
def gift (b : Books κ M) (a : M) : Books κ M where
  deposited := b.deposited
  repaid := b.repaid
  gifts := b.gifts + a
  vault := b.vault + a
  repaid_deposited := b.repaid_deposited
  vault_eq := by rw [b.vault_eq, add_right_comm]

theorem held_eq_zero {b : Books κ M} (hall : b.deposited.keys ⊆ b.repaid) : b.held = 0 := by
  apply total_eq_zero
  intro k a hk
  simp [amountIf, hall (mem_keys_of_lookup hk)]

def entries (k : κ) (repaid : Bool) (a : M) : List (Event κ M) :=
  .deposit k a :: if repaid then [.refund k a] else []

end Books

/-- `Replay g h b`: the books opened with `g` stand at `b` after the events `h`. -/
inductive Replay (g : M) : List (Event κ M) → Books κ M → Prop where
  | opened : Replay g [] (Books.opened κ g)
  | deposit {h : List (Event κ M)} {b : Books κ M} (k : κ) (a : M) (prior : Replay g h b)
      (fresh : b.deposited.lookup k = none) :
      Replay g (h ++ [.deposit k a]) (b.deposit k a fresh)
  | refund {h : List (Event κ M)} {b : Books κ M} (k : κ) (a : M) (prior : Replay g h b)
      (found : b.deposited.lookup k = some a) (owed : k ∉ b.repaid) :
      Replay g (h ++ [.refund k a]) (b.refund k a found owed)
  | gift {h : List (Event κ M)} {b : Books κ M} (a : M) (prior : Replay g h b) :
      Replay g (h ++ [.gift a]) (b.gift a)

namespace Event

def paidIn (c : κ → Prop) [DecidablePred c] : Event κ M → M
  | .deposit k a => amountIf c k a
  | _ => 0

def paidOut (c : κ → Prop) [DecidablePred c] : Event κ M → M
  | .refund k a => amountIf c k a
  | _ => 0

def received : Event κ M → M
  | .gift a => a
  | _ => 0

end Event

namespace Replay

variable {g : M} {h : List (Event κ M)} {b : Books κ M}

theorem gifts_eq (hb : Replay g h b) : b.gifts = g + (h.map Event.received).sum := by
  induction hb with
  | opened => simp [Books.opened]
  | deposit k a _ _ ih => simpa [Books.deposit, Event.received] using ih
  | refund k a _ _ _ ih => simpa [Books.refund, Event.received] using ih
  | gift a _ ih => simp [Books.gift, Event.received, ih, add_assoc]

theorem paidIn_eq (hb : Replay g h b) (c : κ → Prop) [DecidablePred c] :
    (h.map (Event.paidIn c)).sum = total (amountIf c) b.deposited := by
  induction hb with
  | opened => rfl
  | deposit k a _ fresh ih =>
      rw [List.map_append, List.sum_append, ih, Books.deposit, total_insert_new _ _ fresh]
      simp [Event.paidIn]
  | refund k a _ _ _ ih => simpa [Books.refund, Event.paidIn] using ih
  | gift a _ ih => simpa [Books.gift, Event.paidIn] using ih

theorem paidOut_eq (hb : Replay g h b) (c : κ → Prop) [DecidablePred c] :
    (h.map (Event.paidOut c)).sum =
      total (amountIf fun k => c k ∧ k ∈ b.repaid) b.deposited := by
  induction hb with
  | opened => rfl
  | @deposit _ b k a _ fresh ih =>
      rw [List.map_append, List.sum_append, ih]
      change _ = total (amountIf fun k => c k ∧ k ∈ b.repaid) (b.deposited.insert k a)
      rw [total_insert_new _ _ fresh]
      simp [Event.paidOut, amountIf, Books.not_repaid fresh]
  | @refund _ b k a _ found owed ih =>
      rw [List.map_append, List.sum_append, ih]
      change _ = total (amountIf fun k' => c k' ∧ k' ∈ insert k b.repaid) b.deposited
      have hsum : total (amountIf fun k' => c k' ∧ k' ∈ insert k b.repaid) b.deposited +
            weightAt (amountIf fun k' => c k' ∧ k' ∈ b.repaid) b.deposited k =
          total (amountIf fun k' => c k' ∧ k' ∈ b.repaid) b.deposited +
            weightAt (amountIf fun k' => c k' ∧ k' ∈ insert k b.repaid) b.deposited k := by
        apply total_reweight k
        intro k' v hne
        simp [amountIf, hne]
      rw [weightAt_of_lookup _ found, weightAt_of_lookup _ found] at hsum
      simpa [Event.paidOut, amountIf, owed] using hsum.symm
  | @gift _ b a _ ih =>
      rw [List.map_append, List.sum_append, ih]
      change _ + (0 + 0) = total (amountIf fun k => c k ∧ k ∈ b.repaid) b.deposited
      simp

theorem paidOut_eq_paidIn (hb : Replay g h b) (c : κ → Prop) [DecidablePred c]
    (hall : ∀ k ∈ b.deposited.keys, c k → k ∈ b.repaid) :
    (h.map (Event.paidOut c)).sum = (h.map (Event.paidIn c)).sum := by
  rw [hb.paidOut_eq, hb.paidIn_eq]
  apply total_congr
  intro k a hk
  have hrepaid := hall k (mem_keys_of_lookup hk)
  by_cases hc : c k
  · simp [amountIf, hc, hrepaid hc]
  · simp [amountIf, hc]

end Replay

end PredictX.Escrow
