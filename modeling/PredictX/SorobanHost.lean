import Mathlib.Algebra.Order.Ring.Int
import PredictX.HostCall
import PredictX.SharedTypes

namespace PredictX.SorobanHost

open PredictX.HostCall
open PredictX.HostCall.Call
open PredictX.SharedTypes

/-- The context of one contract invocation.  `signed c a` says that `a` signed
the part of the call tree that invokes the contract `c`. -/
structure Env where
  contract : Address
  invoker : Option Address
  timestamp : ℕ
  signed : Address → Address → Bool

/-- An address authorises an invocation by its signature or by being the
contract that makes the call. -/
def Env.authorises (env : Env) (address : Address) : Bool :=
  env.signed env.contract address || env.invoker == some address

def Env.callee (env : Env) (contract : Address) : Env :=
  { env with contract := contract, invoker := some env.contract }

section Primitives

variable {σ ε : Type}

/-- `require_auth` aborts the call unless the address authorised it. -/
def requireAuth (address : Address) : Call Env σ ε Unit := do
  let env ← context
  require (env.authorises address = true)

def timestamp : Call Env σ ε ℕ := do
  let env ← context
  pure env.timestamp

def InI128 (x : ℤ) : Prop := -2 ^ 127 ≤ x ∧ x < 2 ^ 127

instance (x : ℤ) : Decidable (InI128 x) := inferInstanceAs (Decidable (_ ∧ _))

/-- Overflow checks are on, so a result outside the type aborts the call. -/
def checkedI128 (x : ℤ) : Call Env σ ε ℤ := do
  require (InI128 x)
  pure x

def checkedU64 (n : ℕ) : Call Env σ ε ℕ := do
  require (n < 2 ^ 64)
  pure n

def checkedU32 (n : ℕ) : Call Env σ ε ℕ := do
  require (n < 2 ^ 32)
  pure n

def checkedSubU32 (m n : ℕ) : Call Env σ ε ℕ := do
  require (n ≤ m)
  pure (m - n)

/-- Division truncates towards zero, and aborts on a zero divisor. -/
def checkedDivI128 (x y : ℤ) : Call Env σ ε ℤ := do
  require (y ≠ 0)
  checkedI128 (x.tdiv y)

variable {env : Env} {s t : σ}

theorem requireAuth_returns {address : Address} {u : Unit} :
    Returns (requireAuth address : Call Env σ ε Unit) env s u t ↔
      env.authorises address = true ∧ t = s := by
  simp [requireAuth, bind_returns, context_returns, require_returns, and_comm]

theorem reply_requireAuth {address : Address} (h : env.authorises address = false) :
    (requireAuth address env s : Outcome σ ε Unit).reply = .trap none := by
  rw [requireAuth, reply_bind (context_returns.mpr ⟨rfl, rfl⟩)]
  apply reply_require
  rw [h]
  exact Bool.false_ne_true

theorem reply_requireAuth_else {α β : Type} {address : Address} {f : Unit → Call Env σ ε α}
    {g : α → β} {rest : Reply ε β}
    (h : env.authorises address = true → (f () env s).reply.map g = rest) :
    ((requireAuth address >>= f) env s).reply.map g =
      if env.authorises address = false then .trap none else rest :=
  reply_trap_else (u := ()) reply_requireAuth
    (fun hauth => requireAuth_returns.mpr ⟨Bool.eq_true_of_not_eq_false hauth, rfl⟩)
    (fun hauth => h (Bool.eq_true_of_not_eq_false hauth))

theorem timestamp_returns {now : ℕ} :
    Returns (timestamp : Call Env σ ε ℕ) env s now t ↔ now = env.timestamp ∧ t = s := by
  simp [timestamp, bind_returns, context_returns, pure_returns, and_comm]

theorem checkedI128_returns {x y : ℤ} :
    Returns (checkedI128 x : Call Env σ ε ℤ) env s y t ↔ InI128 x ∧ y = x ∧ t = s := by
  simp [checkedI128, bind_returns, require_returns, pure_returns, and_assoc]

theorem checkedU64_returns {x y : ℕ} :
    Returns (checkedU64 x : Call Env σ ε ℕ) env s y t ↔ x < 2 ^ 64 ∧ y = x ∧ t = s := by
  simp [checkedU64, bind_returns, require_returns, pure_returns, and_assoc]

theorem checkedU32_returns {x y : ℕ} :
    Returns (checkedU32 x : Call Env σ ε ℕ) env s y t ↔ x < 2 ^ 32 ∧ y = x ∧ t = s := by
  simp [checkedU32, bind_returns, require_returns, pure_returns, and_assoc]

theorem checkedSubU32_returns {m n k : ℕ} :
    Returns (checkedSubU32 m n : Call Env σ ε ℕ) env s k t ↔ n ≤ m ∧ k = m - n ∧ t = s := by
  simp [checkedSubU32, bind_returns, require_returns, pure_returns, and_assoc]

theorem checkedDivI128_returns {x y z : ℤ} :
    Returns (checkedDivI128 x y : Call Env σ ε ℤ) env s z t ↔
      y ≠ 0 ∧ InI128 (x.tdiv y) ∧ z = x.tdiv y ∧ t = s := by
  simp [checkedDivI128, bind_returns, require_returns, checkedI128_returns, and_assoc]

end Primitives

end PredictX.SorobanHost
