import PredictX.HostCall

namespace PredictX.StateMaps

open PredictX.HostCall
open PredictX.HostCall.Call

variable {ρ σ ε α β : Type}

def mapState (f : σ → σ) : Outcome σ ε α → Outcome σ ε α
  | .ok a t n => .ok a (f t) n
  | .error e t n => .error e (f t) n
  | .trap passedOn => .trap passedOn

def Respects (f : σ → σ) (x : Call ρ σ ε α) : Prop :=
  ∀ env s, x env (f s) = mapState f (x env s)

section

variable {f : σ → σ}

theorem respects_pure (a : α) : Respects f (pure a : Call ρ σ ε α) :=
  fun _ _ => rfl

theorem respects_bind {x : Call ρ σ ε α} {g : α → Call ρ σ ε β} (hx : Respects f x)
    (hg : ∀ a, Respects f (g a)) : Respects f (x >>= g) := by
  intro env s
  change Call.bind x g env (f s) = mapState f (Call.bind x g env s)
  unfold Call.bind
  rw [hx env s]
  cases x env s with
  | ok a t n =>
      simp only [mapState, hg a env t]
      cases g a env t <;> rfl
  | error => rfl
  | trap => rfl

theorem respects_context : Respects f (context : Call ρ σ ε ρ) :=
  fun _ _ => rfl

theorem respects_load {g : σ → α} (h : ∀ s, g (f s) = g s) :
    Respects f (load g : Call ρ σ ε α) := by
  intro env s
  simp only [load, mapState, h]

theorem respects_store {g : σ → σ} (h : ∀ s, g (f s) = f (g s)) :
    Respects f (store g : Call ρ σ ε Unit) := by
  intro env s
  simp only [store, mapState, h]

theorem respects_fail (reason : ε) : Respects f (fail reason : Call ρ σ ε α) :=
  fun _ _ => rfl

theorem respects_abort (passedOn : Option ε) : Respects f (abort passedOn : Call ρ σ ε α) :=
  fun _ _ => rfl

theorem respects_failIf (c : Prop) [Decidable c] (reason : ε) :
    Respects f (failIf c reason : Call ρ σ ε Unit) := by
  unfold failIf
  split
  · exact respects_fail reason
  · exact respects_pure ()

theorem respects_okOr (value : Option α) (reason : ε) :
    Respects f (okOr value reason : Call ρ σ ε α) := by
  cases value with
  | none => exact respects_fail reason
  | some a => exact respects_pure a

theorem respects_require (c : Prop) [Decidable c] :
    Respects f (require c : Call ρ σ ε Unit) := by
  unfold require
  split
  · exact respects_pure ()
  · exact respects_abort none

theorem respects_orAbort (value : Option α) (passedOn : Option ε) :
    Respects f (orAbort value passedOn : Call ρ σ ε α) := by
  cases value with
  | none => exact respects_abort passedOn
  | some a => exact respects_pure a

theorem respects_ite {c : Prop} [Decidable c] {x y : Call ρ σ ε α} (hx : Respects f x)
    (hy : Respects f y) : Respects f (if c then x else y) := by
  split
  · exact hx
  · exact hy

theorem Respects.commit {x : Call ρ σ ε α} (h : Respects f x) (env : ρ) (s : σ) :
    (x env (f s)).commit (f s) = Prod.map id f ((x env s).commit s) := by
  rw [h env s]
  cases x env s <;> rfl

end

end PredictX.StateMaps
