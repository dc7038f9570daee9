import PredictX.FiniteStore
import PredictX.SorobanHost

/-!
Token contracts are not part of the repository.  What the market relies on is
collected here: a transfer either aborts or moves exactly the amount between
the two holders it names.
-/

namespace PredictX.TokenContracts

open PredictX.FiniteStore
open PredictX.SharedTypes

def moved (src dst holder : Address) (amount : ℤ) : ℤ :=
  (if holder = dst then amount else 0) - (if holder = src then amount else 0)

/-- The token contracts on the ledger.  `balance s token holder` is what a
holder has in the token at an address.  `transfer s token signed src dst
amount` and `query s token holder` are the token's entry points `transfer` and
`balance`, `none` when the call fails; `transferError` and `queryError` are the
error codes of the token it then fails with, if any.  `signed` says whether
`src` authorised the transfer. -/
structure Tokens where
  State : Type
  balance : State → Address → Address → ℤ
  transfer : State → Address → Bool → Address → Address → ℤ → Option State
  transferError : State → Address → Bool → Address → Address → ℤ → Option ℕ
  query : State → Address → Address → Option ℤ
  queryError : State → Address → Address → Option ℕ
  balance_nonneg : ∀ s token holder, 0 ≤ balance s token holder
  transfer_nonneg : ∀ {s s' token signed src dst amount},
    transfer s token signed src dst amount = some s' → 0 ≤ amount
  transfer_balance : ∀ {s s' token signed src dst amount},
    transfer s token signed src dst amount = some s' → ∀ token' holder,
      balance s' token' holder = balance s token' holder +
        if token' = token then moved src dst holder amount else 0
  query_balance : ∀ {s token holder amount},
    query s token holder = some amount → amount = balance s token holder

structure Network extends Tokens where
  market : Address

/-- An authorised transfer from the market in this token fails only when the
market does not hold the amount. -/
def Network.PaysOut (N : Network) (token : Address) : Prop :=
  ∀ s dst amount, 0 ≤ amount → amount ≤ N.balance s token N.market →
    (N.transfer s token true N.market dst amount).isSome

/-- A transfer in this token fails only for want of the sender's authorisation
or balance. -/
def Network.MovesOnDemand (N : Network) (token : Address) : Prop :=
  ∀ s signed src dst amount, (N.transfer s token signed src dst amount).isSome ↔
    signed = true ∧ 0 ≤ amount ∧ amount ≤ N.balance s token src

theorem Network.MovesOnDemand.paysOut {N : Network} {token : Address} (h : N.MovesOnDemand token) :
    N.PaysOut token :=
  fun s dst amount hamount hfunds => (h s true N.market dst amount).mpr ⟨rfl, hamount, hfunds⟩

/-- A transfer in this token that fails does so with the same error in every
state. -/
def Network.RefusesAlike (N : Network) (token : Address) : Prop :=
  ∀ signed src dst amount, ∃ code, ∀ s,
    N.transfer s token signed src dst amount = none →
      N.transferError s token signed src dst amount = code

theorem moved_src {src dst : Address} (h : src ≠ dst) (amount : ℤ) :
    moved src dst src amount = -amount := by
  simp [moved, h]

theorem moved_dst {src dst : Address} (h : src ≠ dst) (amount : ℤ) :
    moved src dst dst amount = amount := by
  simp [moved, h.symm]

section Transfer

variable {T : Tokens} {s s' : T.State} {token src dst : Address} {signed : Bool} {amount : ℤ}

theorem Tokens.balance_src (h : T.transfer s token signed src dst amount = some s')
    (hne : src ≠ dst) : T.balance s' token src = T.balance s token src - amount := by
  rw [T.transfer_balance h, if_pos rfl, moved_src hne, sub_eq_add_neg]

theorem Tokens.balance_dst (h : T.transfer s token signed src dst amount = some s')
    (hne : src ≠ dst) : T.balance s' token dst = T.balance s token dst + amount := by
  rw [T.transfer_balance h, if_pos rfl, moved_dst hne]

theorem Tokens.amount_le (h : T.transfer s token signed src dst amount = some s')
    (hne : src ≠ dst) : amount ≤ T.balance s token src := by
  have hleft := T.balance_nonneg s' token src
  rw [T.balance_src h hne] at hleft
  omega

theorem Tokens.balance_elsewhere (h : T.transfer s token signed src dst amount = some s')
    {token' : Address} (hne : token' ≠ token) (holder : Address) :
    T.balance s' token' holder = T.balance s token' holder := by
  rw [T.transfer_balance h, if_neg hne, add_zero]

end Transfer

/-- Balances kept in one store, by token and holder.  A transfer needs the
holder's authorisation and enough balance, as in the Stellar asset contract. -/
def storeBalance (s : Store (Address × Address) ℕ) (token holder : Address) : ℤ :=
  ((s.lookup (token, holder)).getD 0 : ℕ)

def storeTransfer (s : Store (Address × Address) ℕ) (token : Address) (signed : Bool)
    (src dst : Address) (amount : ℤ) : Option (Store (Address × Address) ℕ) :=
  if signed = true ∧ 0 ≤ amount ∧ amount ≤ storeBalance s token src then
    let debited := s.insert (token, src) (storeBalance s token src - amount).toNat
    some (debited.insert (token, dst) (storeBalance debited token dst + amount).toNat)
  else none

/-- The errors of the Stellar asset contract: the amount is looked at before the
authorisation, and the balance after it. -/
def storeTransferError (s : Store (Address × Address) ℕ) (token : Address) (signed : Bool)
    (src _dst : Address) (amount : ℤ) : Option ℕ :=
  if amount < 0 then some 8
  else if signed = true ∧ storeBalance s token src < amount then some 10
  else none

theorem storeBalance_nonneg (s : Store (Address × Address) ℕ) (token holder : Address) :
    0 ≤ storeBalance s token holder :=
  Int.natCast_nonneg _

theorem storeBalance_insert (s : Store (Address × Address) ℕ)
    (token holder token' holder' : Address) {amount : ℤ} (h : 0 ≤ amount) :
    storeBalance (s.insert (token, holder) amount.toNat) token' holder' =
      if token' = token ∧ holder' = holder then amount else storeBalance s token' holder' := by
  unfold storeBalance
  rw [lookup_insert_eq]
  simp only [Prod.mk.injEq]
  split
  · simp [h]
  · rfl

theorem storeTransfer_balance {s s' : Store (Address × Address) ℕ} {token src dst : Address}
    {signed : Bool} {amount : ℤ} (h : storeTransfer s token signed src dst amount = some s')
    (token' holder : Address) :
    storeBalance s' token' holder = storeBalance s token' holder +
      if token' = token then moved src dst holder amount else 0 := by
  unfold storeTransfer at h
  split at h
  · rename_i hguard
    obtain ⟨-, hamount, hfunds⟩ := hguard
    have hdebited := storeBalance_insert s token src token dst (sub_nonneg.mpr hfunds)
    have hnonneg := storeBalance_nonneg s token dst
    simp only [Option.some.injEq] at h
    subst h
    rw [storeBalance_insert _ _ _ _ _ (by rw [hdebited]; split <;> omega), hdebited,
      storeBalance_insert _ _ _ _ _ (sub_nonneg.mpr hfunds)]
    unfold moved
    grind
  · simp at h

def storeNetwork (market : Address) : Network where
  State := Store (Address × Address) ℕ
  balance := storeBalance
  transfer := storeTransfer
  transferError := storeTransferError
  query := fun s token holder => some (storeBalance s token holder)
  queryError := fun _ _ _ => none
  balance_nonneg := storeBalance_nonneg
  transfer_nonneg := by
    intro s s' token signed src dst amount h
    unfold storeTransfer at h
    split at h
    · rename_i hguard
      exact hguard.2.1
    · simp at h
  transfer_balance := storeTransfer_balance
  query_balance := fun h => (Option.some.inj h).symm
  market := market

theorem storeNetwork_movesOnDemand (market token : Address) :
    (storeNetwork market).MovesOnDemand token := by
  intro s signed src dst amount
  change (storeTransfer s token signed src dst amount).isSome ↔
    signed = true ∧ 0 ≤ amount ∧ amount ≤ storeBalance s token src
  unfold storeTransfer
  split
  · simp [*]
  · simp [*]

theorem storeNetwork_refusesAlike (market token : Address) :
    (storeNetwork market).RefusesAlike token := by
  intro signed src dst amount
  refine ⟨if amount < 0 then some 8 else if signed = true then some 10 else none, fun s h => ?_⟩
  change storeTransfer s token signed src dst amount = none at h
  change storeTransferError s token signed src dst amount = _
  unfold storeTransfer at h
  unfold storeTransferError
  grind

theorem storeNetwork_paysOut (market token : Address) :
    (storeNetwork market).PaysOut token :=
  (storeNetwork_movesOnDemand market token).paysOut

end PredictX.TokenContracts
