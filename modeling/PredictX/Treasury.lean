import Mathlib.Algebra.BigOperators.Group.List.Basic
import PredictX.FiniteStore
import PredictX.OrderedChecks
import PredictX.SorobanHost
import PredictX.Transactions

namespace PredictX.Treasury

open PredictX.FiniteStore
open PredictX.HostCall
open PredictX.HostCall.Call
open PredictX.LabelledRuns
open PredictX.SharedTypes
open PredictX.SorobanHost
open PredictX.Transactions

structure TreasuryStorage where
  admin : Option Address
  balance : Store Address ℤ

def TreasuryStorage.deployed : TreasuryStorage where
  admin := none
  balance := ∅

abbrev TreasuryCall := Call Env TreasuryStorage PredictXError

def getAdmin : TreasuryCall Address := do
  let admin ← load (·.admin)
  okOr admin .notInitialized

def TreasuryStorage.balanceOf (s : TreasuryStorage) (who : Address) : ℤ :=
  (s.balance.lookup who).getD 0

def initializeTreasury (admin : Address) : TreasuryCall Unit := do
  let stored ← load (·.admin)
  failIf (stored.isSome = true) .alreadyInitialized
  requireAuth admin
  store fun s => { s with admin := some admin }

/-- The amount is looked at before anything else; no token moves. -/
def deposit (src : Address) (amount : ℤ) : TreasuryCall ℤ := do
  failIf (amount ≤ 0) .stakeAmountZero
  let admin ← load (·.admin)
  failIf (admin.isSome = false) .notInitialized
  requireAuth src
  let balance ← load (·.balanceOf src)
  let newBalance ← checkedI128 (balance + amount)
  store fun s => { s with balance := s.balance.insert src newBalance }
  pure newBalance

def balance (who : Address) : TreasuryCall ℤ := do
  let admin ← load (·.admin)
  failIf (admin.isSome = false) .notInitialized
  load (·.balanceOf who)

inductive TreasuryOp where
  | initializeTreasury (admin : Address)
  | deposit (src : Address) (amount : ℤ)

/-- The balance an entry point returns, if it returns one. -/
def TreasuryOp.execute : TreasuryOp → TreasuryCall (Option ℤ)
  | .initializeTreasury admin => do
      Treasury.initializeTreasury admin
      pure none
  | .deposit src amount => do
      let newBalance ← Treasury.deposit src amount
      pure (some newBalance)

section Returns

variable {env : Env} {s t : TreasuryStorage}

theorem getAdmin_returns {admin : Address} :
    Returns getAdmin env s admin t ↔ s.admin = some admin ∧ t = s :=
  load_okOr_returns

theorem initializeTreasury_returns {admin : Address} {u : Unit} :
    Returns (initializeTreasury admin) env s u t ↔
      s.admin = none ∧ env.authorises admin = true ∧ t = { s with admin := some admin } := by
  simp [initializeTreasury, bind_returns, load_returns, failIf_returns, requireAuth_returns,
    store_returns]

theorem deposit_returns {src : Address} {amount newBalance : ℤ} :
    Returns (deposit src amount) env s newBalance t ↔
      0 < amount ∧ s.admin ≠ none ∧ env.authorises src = true ∧
        InI128 (s.balanceOf src + amount) ∧ newBalance = s.balanceOf src + amount ∧
        t = { s with balance := s.balance.insert src newBalance } := by
  simp only [deposit, bind_returns, load_returns, failIf_returns, requireAuth_returns,
    checkedI128_returns, store_returns, pure_returns]
  constructor
  · rintro ⟨_, _, ⟨hpositive, rfl⟩, _, _, ⟨rfl, rfl⟩, _, _, ⟨hadmin, rfl⟩, _, _, ⟨hauth, rfl⟩,
      _, _, ⟨rfl, rfl⟩, _, _, ⟨hfits, rfl, rfl⟩, _, _, rfl, rfl, rfl⟩
    exact ⟨not_le.mp hpositive, by simpa using hadmin, hauth, hfits, rfl, rfl⟩
  · rintro ⟨hpositive, hadmin, hauth, hfits, rfl, rfl⟩
    exact ⟨(), s, ⟨not_le.mpr hpositive, rfl⟩, _, s, ⟨rfl, rfl⟩, (), s,
      ⟨by simpa using hadmin, rfl⟩, (), s, ⟨hauth, rfl⟩, _, s, ⟨rfl, rfl⟩, _, s,
      ⟨hfits, rfl, rfl⟩, (), _, rfl, rfl, rfl⟩

theorem balance_returns {who : Address} {value : ℤ} :
    Returns (balance who) env s value t ↔ s.admin ≠ none ∧ value = s.balanceOf who ∧ t = s := by
  simp only [balance, bind_returns, load_returns, failIf_returns]
  constructor
  · rintro ⟨_, _, ⟨rfl, rfl⟩, _, _, ⟨hadmin, rfl⟩, rfl, rfl⟩
    exact ⟨by simpa using hadmin, rfl, rfl⟩
  · rintro ⟨hadmin, rfl, rfl⟩
    exact ⟨_, _, ⟨rfl, rfl⟩, (), _, ⟨by simpa using hadmin, rfl⟩, rfl, rfl⟩

end Returns

abbrev TreasuryTransaction :=
  Entry TreasuryStorage (Env × TreasuryOp) (Reply PredictXError (Option ℤ))

/-- What the transaction added to an account. -/
def deposited (who : Address) (e : TreasuryTransaction) : ℤ :=
  match e.input.2, e.output with
  | .deposit src amount, .ok _ => if src = who then amount else 0
  | _, _ => 0

theorem deposited_refused {who : Address} {s t : TreasuryStorage} {call : Env × TreasuryOp}
    {reply : Reply PredictXError (Option ℤ)} (h : ∀ a, reply ≠ .ok a) :
    deposited who ⟨s, call, reply, t⟩ = 0 := by
  unfold deposited
  split
  · rename_i hreply
    exact absurd hreply (h _)
  · rfl

/-- What an accepted call checked and did. -/
inductive TreasuryChange (env : Env) (s : TreasuryStorage) : TreasuryOp → Option ℤ →
    TreasuryStorage → Prop where
  | initializeTreasury {admin : Address} (fresh : s.admin = none)
      (authorised : env.authorises admin = true) :
      TreasuryChange env s (.initializeTreasury admin) none { s with admin := some admin }
  | deposit {src : Address} {amount : ℤ} (positive : 0 < amount) (initialized : s.admin ≠ none)
      (authorised : env.authorises src = true) (fits : InI128 (s.balanceOf src + amount)) :
      TreasuryChange env s (.deposit src amount) (some (s.balanceOf src + amount))
        { s with balance := s.balance.insert src (s.balanceOf src + amount) }

theorem treasuryChange {env : Env} {s t : TreasuryStorage} {op : TreasuryOp} {value : Option ℤ}
    (h : Returns op.execute env s value t) : TreasuryChange env s op value t := by
  cases op with
  | initializeTreasury admin =>
      obtain ⟨_, _, hdone, hvalue⟩ := bind_returns.mp h
      obtain ⟨rfl, rfl⟩ := pure_returns.mp hvalue
      obtain ⟨hfresh, hauth, rfl⟩ := initializeTreasury_returns.mp hdone
      exact .initializeTreasury hfresh hauth
  | deposit src amount =>
      obtain ⟨_, _, hdone, hvalue⟩ := bind_returns.mp h
      obtain ⟨rfl, rfl⟩ := pure_returns.mp hvalue
      obtain ⟨hpositive, hadmin, hauth, hfits, rfl, rfl⟩ := deposit_returns.mp hdone
      exact .deposit hpositive hadmin hauth hfits

theorem balanceOf_deposited (s : TreasuryStorage) (src who : Address) (amount : ℤ) :
    ({ s with balance := s.balance.insert src (s.balanceOf src + amount) } :
        TreasuryStorage).balanceOf who = s.balanceOf who + if src = who then amount else 0 := by
  rw [TreasuryStorage.balanceOf, lookup_insert_eq]
  by_cases h : who = src
  · subst h
    rw [if_pos rfl, if_pos rfl, Option.getD_some]
  · rw [if_neg h, if_neg (Ne.symm h), add_zero]
    rfl

theorem balanceOf_change {env : Env} {s t : TreasuryStorage} {op : TreasuryOp} {value : Option ℤ}
    (h : TreasuryChange env s op value t) (who : Address) :
    t.balanceOf who = s.balanceOf who + deposited who ⟨s, (env, op), .ok value, t⟩ := by
  cases h with
  | initializeTreasury => exact (add_zero _).symm
  | deposit => exact balanceOf_deposited s _ who _

theorem deposited_nonneg {env : Env} {s t : TreasuryStorage} {op : TreasuryOp} {value : Option ℤ}
    (h : TreasuryChange env s op value t) (who : Address) :
    0 ≤ deposited who ⟨s, (env, op), .ok value, t⟩ := by
  cases h with
  | initializeTreasury => exact le_rfl
  | deposit positive =>
      unfold deposited
      dsimp only
      split
      · exact positive.le
      · exact le_rfl

theorem balanceOf_run (calls : List (Env × TreasuryOp)) (who : Address) :
    (run (transact TreasuryOp.execute) .deployed calls).balanceOf who =
      ((trace (transact TreasuryOp.execute) .deployed calls).map (deposited who)).sum := by
  refine transactions_induction (P := fun history s =>
    s.balanceOf who = (history.map (deposited who)).sum) rfl ?_ ?_ calls
  · intro history s env op value t hsum hreturns
    rw [List.map_append, List.sum_append, ← hsum, balanceOf_change (treasuryChange hreturns) who]
    simp
  · intro history s env op reply hsum hrefused
    rw [List.map_append, List.sum_append, ← hsum]
    simp [deposited_refused hrefused]

/-- What every transaction of a run keeps, and what an accepted deposit shows. -/
structure AccountStep (e : TreasuryTransaction) : Prop where
  never_less : ∀ who, e.before.balanceOf who ≤ e.after.balanceOf who
  admin_kept : ∀ env admin, Returns getAdmin env e.before admin e.before →
    Returns getAdmin env e.after admin e.after
  signed : ∀ src amount value, e.input.2 = .deposit src amount → e.output = .ok value →
    0 < amount ∧ e.input.1.authorises src = true ∧ e.before.admin ≠ none ∧
      value = some (e.after.balanceOf src)

theorem accountStep_ok {env : Env} {s t : TreasuryStorage} {op : TreasuryOp} {value : Option ℤ}
    (h : TreasuryChange env s op value t) : AccountStep ⟨s, (env, op), .ok value, t⟩ := by
  constructor
  · intro who
    change s.balanceOf who ≤ t.balanceOf who
    have hmore := deposited_nonneg h who
    have hbalance := balanceOf_change h who
    omega
  · intro caller admin hbefore
    obtain ⟨hadmin, -⟩ := getAdmin_returns.mp hbefore
    rw [getAdmin_returns]
    cases h with
    | initializeTreasury fresh => exact absurd (hadmin.symm.trans fresh) (by simp)
    | deposit => exact ⟨hadmin, rfl⟩
  · rintro src amount _ rfl ⟨⟩
    cases h with
    | deposit positive initialized authorised fits =>
        refine ⟨positive, authorised, initialized, ?_⟩
        rw [balanceOf_deposited, if_pos rfl]

theorem accountStep_refused {call : Env × TreasuryOp} {s : TreasuryStorage}
    {reply : Reply PredictXError (Option ℤ)} (h : ∀ a, reply ≠ .ok a) :
    AccountStep ⟨s, call, reply, s⟩ where
  never_less := fun _ => le_rfl
  admin_kept := fun _ _ => id
  signed := fun _ _ value _ hok => absurd hok (h value)

/-- Over a whole run `balance` answers, once there is an admin, with the sum of
the deposits accepted for the account, each signed by its owner and answered
with the new balance; no call ever takes anything out, and the admin is never
replaced. -/
theorem treasury_accounts (calls : List (Env × TreasuryOp)) :
    (∀ env who value t,
      Returns (balance who) env (run (transact TreasuryOp.execute) .deployed calls) value t ↔
        (run (transact TreasuryOp.execute) .deployed calls).admin ≠ none ∧
          value = ((trace (transact TreasuryOp.execute) .deployed calls).map (deposited who)).sum ∧
          t = run (transact TreasuryOp.execute) .deployed calls) ∧
      ∀ e ∈ trace (transact TreasuryOp.execute) .deployed calls, AccountStep e := by
  constructor
  · intro env who value t
    rw [balance_returns, balanceOf_run]
  · intro e he
    apply transactions_forall _ _ he
    · intro s env op value t hreturns
      exact accountStep_ok (treasuryChange hreturns)
    · intro s env op reply hrefused
      exact accountStep_refused hrefused

end PredictX.Treasury
