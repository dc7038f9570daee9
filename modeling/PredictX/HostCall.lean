import Mathlib.Data.Nat.Notation
import Mathlib.Logic.Basic

/-!
Invocations of a contract by a transactional host.  A call reads a context,
threads a state and either returns a value, returns an error of its own, or is
aborted.  The state at an error return is kept visible, together with the
number of writes made so far; discarding it is the separate act of `commit`.
A call that is aborted because a call it made failed passes the error of that
call on.
-/

namespace PredictX.HostCall

/-- How a call ends.  The two ways of returning carry the state at the return
and the number of writes performed up to it. -/
inductive Outcome (σ ε α : Type) where
  | ok (value : α) (state : σ) (writes : ℕ)
  | error (reason : ε) (state : σ) (writes : ℕ)
  | trap (passedOn : Option ε)

/-- A computation of a contract: `ρ` is the context it reads, `σ` the state it
may write, `ε` the errors it may return. -/
def Call (ρ σ ε α : Type) : Type := ρ → σ → Outcome σ ε α

namespace Call

variable {ρ σ ε α β : Type}

/-- Sequencing stops at the first error return or abort. -/
protected def bind (x : Call ρ σ ε α) (f : α → Call ρ σ ε β) : Call ρ σ ε β :=
  fun env s =>
    match x env s with
    | .ok a t m =>
        match f a env t with
        | .ok b u n => .ok b u (m + n)
        | .error e u n => .error e u (m + n)
        | .trap passedOn => .trap passedOn
    | .error e t m => .error e t m
    | .trap passedOn => .trap passedOn

instance : Monad (Call ρ σ ε) where
  pure a := fun _ s => .ok a s 0
  bind := Call.bind

theorem bind_assoc {γ : Type} (x : Call ρ σ ε α) (f : α → Call ρ σ ε β) (g : β → Call ρ σ ε γ) :
    (x >>= f) >>= g = x >>= fun a => f a >>= g := by
  funext env s
  change Call.bind (Call.bind x f) g env s = Call.bind x (fun a => Call.bind (f a) g) env s
  simp only [Call.bind]
  cases x env s with
  | ok a t m =>
      dsimp only
      cases f a env t with
      | ok b u n =>
          dsimp only
          cases g b env u <;> simp only [Nat.add_assoc]
      | error => rfl
      | trap => rfl
  | error => rfl
  | trap => rfl

def context : Call ρ σ ε ρ := fun env s => .ok env s 0

def load (f : σ → α) : Call ρ σ ε α := fun _ s => .ok (f s) s 0

def store (f : σ → σ) : Call ρ σ ε Unit := fun _ s => .ok () (f s) 1

def fail (reason : ε) : Call ρ σ ε α := fun _ s => .error reason s 0

def abort (passedOn : Option ε) : Call ρ σ ε α := fun _ _ => .trap passedOn

/-- Return `reason` if the condition holds. -/
def failIf (c : Prop) [Decidable c] (reason : ε) : Call ρ σ ε Unit :=
  if c then fail reason else pure ()

/-- Unwrap an optional value, returning `reason` if there is none. -/
def okOr (value : Option α) (reason : ε) : Call ρ σ ε α :=
  match value with
  | some a => pure a
  | none => fail reason

def require (c : Prop) [Decidable c] : Call ρ σ ε Unit :=
  if c then pure () else abort none

/-- Unwrap what a call to another contract returned; without it, abort with
the error that call failed with. -/
def orAbort (value : Option α) (passedOn : Option ε) : Call ρ σ ε α :=
  match value with
  | some a => pure a
  | none => abort passedOn

def Returns (x : Call ρ σ ε α) (env : ρ) (s : σ) (a : α) (t : σ) : Prop :=
  ∃ n, x env s = .ok a t n

section Returns

variable {env : ρ} {s t : σ}

theorem bind_eq_ok {x : Call ρ σ ε α} {f : α → Call ρ σ ε β} {b : β} {k : ℕ} :
    (x >>= f) env s = .ok b t k ↔
      ∃ a u m n, x env s = .ok a u m ∧ f a env u = .ok b t n ∧ k = m + n := by
  change Call.bind x f env s = _ ↔ _
  unfold Call.bind
  cases hx : x env s with
  | ok a u m =>
      dsimp only
      constructor
      · intro h
        cases hf : f a env u with
        | ok b' t' n =>
            rw [hf] at h
            rcases Outcome.ok.inj h with ⟨rfl, rfl, rfl⟩
            exact ⟨a, u, m, n, rfl, hf, rfl⟩
        | error => simp [hf] at h
        | trap => simp [hf] at h
      · rintro ⟨_, _, _, n, hx', hf, rfl⟩
        rcases Outcome.ok.inj hx' with ⟨rfl, rfl, rfl⟩
        rw [hf]
  | error => simp
  | trap => simp

theorem bind_returns {x : Call ρ σ ε α} {f : α → Call ρ σ ε β} {b : β} :
    Returns (x >>= f) env s b t ↔
      ∃ a u, Returns x env s a u ∧ Returns (f a) env u b t := by
  simp only [Returns, bind_eq_ok]
  constructor
  · rintro ⟨_, a, u, m, n, hx, hf, -⟩
    exact ⟨a, u, ⟨m, hx⟩, n, hf⟩
  · rintro ⟨a, u, ⟨m, hx⟩, n, hf⟩
    exact ⟨m + n, a, u, m, n, hx, hf, rfl⟩

theorem pure_returns {a b : α} :
    Returns (pure a : Call ρ σ ε α) env s b t ↔ b = a ∧ t = s := by
  change (∃ n, Outcome.ok a s 0 = .ok b t n) ↔ _
  simp [eq_comm]

theorem context_returns {env' : ρ} :
    Returns (context : Call ρ σ ε ρ) env s env' t ↔ env' = env ∧ t = s := by
  simp [Returns, context, eq_comm]

theorem load_returns {f : σ → α} {a : α} :
    Returns (load f : Call ρ σ ε α) env s a t ↔ a = f s ∧ t = s := by
  simp [Returns, load, eq_comm]

theorem store_returns {f : σ → σ} {u : Unit} :
    Returns (store f : Call ρ σ ε Unit) env s u t ↔ t = f s := by
  simp [Returns, store, eq_comm]

theorem not_fail_returns {reason : ε} {a : α} :
    ¬ Returns (fail reason : Call ρ σ ε α) env s a t := by
  simp [Returns, fail]

theorem not_abort_returns {passedOn : Option ε} {a : α} :
    ¬ Returns (abort passedOn : Call ρ σ ε α) env s a t := by
  simp [Returns, abort]

theorem failIf_returns {c : Prop} [Decidable c] {reason : ε} {u : Unit} :
    Returns (failIf c reason : Call ρ σ ε Unit) env s u t ↔ ¬ c ∧ t = s := by
  unfold failIf
  split
  · simp [not_fail_returns, *]
  · simp [pure_returns, *]

theorem okOr_returns {value : Option α} {reason : ε} {a : α} :
    Returns (okOr value reason : Call ρ σ ε α) env s a t ↔ value = some a ∧ t = s := by
  cases value with
  | none => simp [okOr, not_fail_returns]
  | some b => simp [okOr, pure_returns, eq_comm]

theorem load_okOr_returns {g : σ → Option α} {reason : ε} {a : α} :
    Returns (load g >>= fun value => okOr value reason : Call ρ σ ε α) env s a t ↔
      g s = some a ∧ t = s := by
  rw [bind_returns]
  constructor
  · rintro ⟨_, _, hload, hvalue⟩
    obtain ⟨rfl, rfl⟩ := load_returns.mp hload
    exact okOr_returns.mp hvalue
  · intro h
    exact ⟨_, _, load_returns.mpr ⟨rfl, rfl⟩, okOr_returns.mpr h⟩

theorem require_returns {c : Prop} [Decidable c] {u : Unit} :
    Returns (require c : Call ρ σ ε Unit) env s u t ↔ c ∧ t = s := by
  unfold require
  split
  · simp [pure_returns, *]
  · simp [not_abort_returns, *]

theorem orAbort_returns {value : Option α} {passedOn : Option ε} {a : α} :
    Returns (orAbort value passedOn : Call ρ σ ε α) env s a t ↔ value = some a ∧ t = s := by
  cases value with
  | none => simp [orAbort, not_abort_returns]
  | some b => simp [orAbort, pure_returns, eq_comm]

end Returns

end Call

/-- How a call ended, without its state. -/
inductive Reply (ε α : Type) where
  | ok (value : α)
  | error (reason : ε)
  | trap (passedOn : Option ε)
  deriving DecidableEq

def Reply.map {ε α β : Type} (f : α → β) : Reply ε α → Reply ε β
  | .ok a => .ok (f a)
  | .error e => .error e
  | .trap passedOn => .trap passedOn

/-- The error the invoker is told: the host does not say whether it is the
call's own or was passed on by it. -/
def Reply.reported {ε α : Type} : Reply ε α → Option ε
  | .ok _ => none
  | .error e => some e
  | .trap passedOn => passedOn

theorem Reply.reported_eq_some {ε α : Type} {r : Reply ε α} {e : ε} :
    r.reported = some e ↔ r = .error e ∨ r = .trap (some e) := by
  cases r <;> simp [Reply.reported]

/-- The reply without the error that it passes on. -/
def Reply.own {ε α : Type} : Reply ε α → Reply ε α
  | .trap _ => .trap none
  | reply => reply

def Outcome.reply {σ ε α : Type} : Outcome σ ε α → Reply ε α
  | .ok a _ _ => .ok a
  | .error e _ _ => .error e
  | .trap passedOn => .trap passedOn

section Replies

variable {ρ σ ε α β : Type} {x : Call ρ σ ε α} {f : α → Call ρ σ ε β} {env : ρ} {s t : σ}

theorem reply_eq_ok {a : α} : (x env s).reply = .ok a ↔ ∃ t, Call.Returns x env s a t := by
  unfold Call.Returns
  cases x env s <;> simp [Outcome.reply]

theorem reply_bind {a : α} (h : Call.Returns x env s a t) :
    ((x >>= f) env s).reply = (f a env t).reply := by
  obtain ⟨n, hx⟩ := h
  change (Call.bind x f env s).reply = _
  unfold Call.bind
  rw [hx]
  dsimp only
  cases f a env t <;> rfl

theorem reply_bind_error {reason : ε} (h : (x env s).reply = .error reason) :
    ((x >>= f) env s).reply = .error reason := by
  change (Call.bind x f env s).reply = _
  unfold Call.bind
  cases hx : x env s <;> simp_all [Outcome.reply]

theorem reply_bind_trap {passedOn : Option ε} (h : (x env s).reply = .trap passedOn) :
    ((x >>= f) env s).reply = .trap passedOn := by
  change (Call.bind x f env s).reply = _
  unfold Call.bind
  cases hx : x env s <;> simp_all [Outcome.reply]

theorem reply_map (g : α → β) :
    ((x >>= fun a => pure (g a)) env s).reply = (x env s).reply.map g := by
  change (Call.bind x _ env s).reply = _
  unfold Call.bind
  cases x env s <;> rfl

theorem reply_failIf {c : Prop} [Decidable c] {reason : ε} (h : c) :
    (Call.failIf c reason env s : Outcome σ ε Unit).reply = .error reason := by
  rw [Call.failIf, if_pos h]
  rfl

theorem reply_require {c : Prop} [Decidable c] (h : ¬ c) :
    (Call.require c env s : Outcome σ ε Unit).reply = .trap none := by
  rw [Call.require, if_neg h]
  rfl

variable {γ : Type} {g : β → γ} {rest : Reply ε γ} {c : Prop} [Decidable c] {u : Unit}

theorem reply_error_else {y : Call ρ σ ε Unit} {f : Unit → Call ρ σ ε β} {reason : ε}
    (hfails : c → (y env s).reply = .error reason) (hpasses : ¬ c → Call.Returns y env s u s)
    (h : ¬ c → (f u env s).reply.map g = rest) :
    ((y >>= f) env s).reply.map g = if c then .error reason else rest := by
  split
  · rename_i hc
    rw [reply_bind_error (hfails hc)]
    rfl
  · rename_i hc
    rw [reply_bind (hpasses hc)]
    exact h hc

theorem reply_trap_else {y : Call ρ σ ε Unit} {f : Unit → Call ρ σ ε β}
    (hfails : c → (y env s).reply = .trap none) (hpasses : ¬ c → Call.Returns y env s u s)
    (h : ¬ c → (f u env s).reply.map g = rest) :
    ((y >>= f) env s).reply.map g = if c then .trap none else rest := by
  split
  · rename_i hc
    rw [reply_bind_trap (hfails hc)]
    rfl
  · rename_i hc
    rw [reply_bind (hpasses hc)]
    exact h hc

theorem reply_failIf_else {c' : Prop} [Decidable c'] {f : Unit → Call ρ σ ε β} {reason : ε}
    (hiff : c' ↔ c) (h : ¬ c → (f () env s).reply.map g = rest) :
    ((Call.failIf c' reason >>= f) env s).reply.map g = if c then .error reason else rest :=
  reply_error_else (u := ()) (fun hc => reply_failIf (hiff.mpr hc))
    (fun hc => Call.failIf_returns.mpr ⟨mt hiff.mp hc, rfl⟩) h

end Replies

/-- The host keeps the state of a call only if it returned normally. -/
def Outcome.commit {σ ε α : Type} (s : σ) : Outcome σ ε α → Reply ε α × σ
  | .ok a t _ => (.ok a, t)
  | .error e _ _ => (.error e, s)
  | .trap passedOn => (.trap passedOn, s)

section Commit

variable {ρ σ ε α : Type} {x : Call ρ σ ε α} {env : ρ} {s t : σ}

theorem commit_fst : ((x env s).commit s).1 = (x env s).reply := by
  cases x env s <;> rfl

theorem commit_eq_ok {a : α} :
    (x env s).commit s = (.ok a, t) ↔ Call.Returns x env s a t := by
  unfold Call.Returns
  cases x env s <;> simp [Outcome.commit]

theorem commit_cases (x : Call ρ σ ε α) (env : ρ) (s : σ) :
    (∃ a t, (x env s).commit s = (.ok a, t) ∧ Call.Returns x env s a t) ∨
      ((x env s).commit s).2 = s ∧ ∀ a, ((x env s).commit s).1 ≠ .ok a := by
  unfold Call.Returns
  cases x env s <;> simp [Outcome.commit]

end Commit

end PredictX.HostCall
