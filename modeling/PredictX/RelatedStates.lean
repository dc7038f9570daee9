import PredictX.HostCall

namespace PredictX.RelatedStates

open PredictX.HostCall
open PredictX.HostCall.Call

variable {ρ σ ε α β : Type}

/-- The same answer with related states; how often the calls wrote is left out. -/
inductive Related (R : σ → σ → Prop) : Outcome σ ε α → Outcome σ ε α → Prop where
  | ok {a : α} {t t' : σ} {m n : ℕ} (h : R t t') : Related R (.ok a t m) (.ok a t' n)
  | error {reason : ε} {t t' : σ} {m n : ℕ} (h : R t t') :
      Related R (.error reason t m) (.error reason t' n)
  | trap {passedOn : Option ε} : Related R (.trap passedOn) (.trap passedOn)

def Agree (R : σ → σ → Prop) (x y : Call ρ σ ε α) : Prop :=
  ∀ env s s', R s s' → Related R (x env s) (y env s')

section

variable {R : σ → σ → Prop}

theorem agree_pure (a : α) : Agree R (pure a : Call ρ σ ε α) (pure a) :=
  fun _ _ _ => .ok

theorem agree_bind {x y : Call ρ σ ε α} {f g : α → Call ρ σ ε β} (hfirst : Agree R x y)
    (hrest : ∀ a, Agree R (f a) (g a)) : Agree R (x >>= f) (y >>= g) := by
  intro env s s' hs
  change Related R (Call.bind x f env s) (Call.bind y g env s')
  unfold Call.bind
  have hout := hfirst env s s' hs
  generalize x env s = out at hout
  generalize y env s' = out' at hout
  cases hout with
  | @ok a t t' m n ht =>
      have hsecond := hrest a env t t' ht
      dsimp only
      generalize f a env t = out at hsecond
      generalize g a env t' = out' at hsecond
      cases hsecond with
      | ok h => exact .ok h
      | error h => exact .error h
      | trap => exact .trap
  | error ht => exact .error ht
  | trap => exact .trap

theorem agree_context : Agree R (context : Call ρ σ ε ρ) context :=
  fun _ _ _ => .ok

theorem agree_load {f : σ → α} (h : ∀ s s', R s s' → f s = f s') :
    Agree R (load f : Call ρ σ ε α) (load f) := by
  intro env s s' hs
  rw [load, load, h s s' hs]
  exact .ok hs

theorem agree_store {f g : σ → σ} (h : ∀ s s', R s s' → R (f s) (g s')) :
    Agree R (store f : Call ρ σ ε Unit) (store g) :=
  fun _ s s' hs => .ok (h s s' hs)

theorem agree_fail (reason : ε) : Agree R (fail reason : Call ρ σ ε α) (fail reason) :=
  fun _ _ _ => .error

theorem agree_abort (passedOn : Option ε) :
    Agree R (abort passedOn : Call ρ σ ε α) (abort passedOn) :=
  fun _ _ _ _ => .trap

theorem agree_failIf (c : Prop) [Decidable c] (reason : ε) :
    Agree R (failIf c reason : Call ρ σ ε Unit) (failIf c reason) := by
  unfold failIf
  split
  · exact agree_fail reason
  · exact agree_pure ()

theorem agree_okOr (value : Option α) (reason : ε) :
    Agree R (okOr value reason : Call ρ σ ε α) (okOr value reason) := by
  cases value with
  | none => exact agree_fail reason
  | some a => exact agree_pure a

theorem agree_require (c : Prop) [Decidable c] :
    Agree R (require c : Call ρ σ ε Unit) (require c) := by
  unfold require
  split
  · exact agree_pure ()
  · exact agree_abort none

theorem agree_orAbort (value : Option α) (passedOn : Option ε) :
    Agree R (orAbort value passedOn : Call ρ σ ε α) (orAbort value passedOn) := by
  cases value with
  | none => exact agree_abort passedOn
  | some a => exact agree_pure a

/-- The rest sees only that there is an entry, and not which. -/
theorem agree_exists {f : σ → Option α} {reason : ε} {x y : Call ρ σ ε β}
    (h : ∀ s s', R s s' → (f s).isSome = (f s').isSome) (hrest : Agree R x y) :
    Agree R (load f >>= fun a => okOr a reason >>= fun _ => x)
      (load f >>= fun a => okOr a reason >>= fun _ => y) := by
  have hsome : ∀ z : Call ρ σ ε β, (load f >>= fun a => okOr a reason >>= fun _ => z) =
      load (fun s => (f s).isSome) >>= fun found =>
        failIf (found = false) reason >>= fun _ => z := by
    intro z
    funext env s
    change Call.bind (load f) _ env s = Call.bind (load _) _ env s
    simp only [Call.bind, load]
    cases f s <;> rfl
  rw [hsome, hsome]
  exact agree_bind (agree_load h) fun found => agree_bind (agree_failIf _ _) fun _ => hrest

theorem agree_of_returns {x y : Call ρ σ ε α}
    (h : ∀ env s s', R s s' → (∃ a, Returns x env s a s ∧ Returns y env s' a s') ∨
      (x env s).reply = .trap none ∧ (y env s').reply = .trap none) : Agree R x y := by
  intro env s s' hs
  rcases h env s s' hs with ⟨a, ⟨m, hx⟩, n, hy⟩ | ⟨hx, hy⟩
  · rw [hx, hy]
    exact .ok hs
  · cases hout : x env s with
    | ok | error => simp [hout, Outcome.reply] at hx
    | trap =>
        cases hout' : y env s' with
        | ok | error => simp [hout', Outcome.reply] at hy
        | trap =>
            rw [hout] at hx
            rw [hout'] at hy
            cases hx
            cases hy
            exact .trap

theorem Agree.commit {x y : Call ρ σ ε α} (h : Agree R x y) (env : ρ) {s s' : σ} (hs : R s s') :
    ((x env s).commit s).1 = ((y env s').commit s').1 ∧
      R ((x env s).commit s).2 ((y env s').commit s').2 := by
  have hout := h env s s' hs
  generalize x env s = out at hout
  generalize y env s' = out' at hout
  cases hout with
  | ok ht => exact ⟨rfl, ht⟩
  | error => exact ⟨rfl, hs⟩
  | trap => exact ⟨rfl, hs⟩

end

end PredictX.RelatedStates
