import PredictX.HostCall

namespace PredictX.Footprints

open PredictX.HostCall
open PredictX.HostCall.Call

variable {ρ σ ε α β : Type}

section Writes

/-- If the call returned, it had written nothing. -/
def Untouched (s : σ) : Outcome σ ε α → Prop
  | .ok _ t writes => t = s ∧ writes = 0
  | .error _ t writes => t = s ∧ writes = 0
  | .trap _ => True

/-- If the call returned an error, it had written nothing. -/
def Clean (s : σ) : Outcome σ ε α → Prop
  | .error _ t writes => t = s ∧ writes = 0
  | _ => True

def NoError : Outcome σ ε α → Prop
  | .error _ _ _ => False
  | _ => True

def ReadOnly (x : Call ρ σ ε α) : Prop := ∀ env s, Untouched s (x env s)

def CleanErrors (x : Call ρ σ ε α) (s : σ) : Prop := ∀ env, Clean s (x env s)

def ErrorFree (x : Call ρ σ ε α) (s : σ) : Prop := ∀ env, NoError (x env s)

theorem CleanErrors.of_error {x : Call ρ σ ε α} {env : ρ} {s t : σ} {reason : ε} {writes : ℕ}
    (hx : CleanErrors x s) (h : x env s = .error reason t writes) : t = s ∧ writes = 0 := by
  have hclean := hx env
  rw [h] at hclean
  exact hclean

theorem ReadOnly.of_ok {x : Call ρ σ ε α} (hx : ReadOnly x) {env : ρ} {s t : σ} {a : α} {n : ℕ}
    (h : x env s = .ok a t n) : t = s ∧ n = 0 := by
  have huntouched := hx env s
  rw [h] at huntouched
  exact huntouched

theorem NoError.clean {s : σ} {out : Outcome σ ε α} (h : NoError out) : Clean s out := by
  cases out with
  | error => exact h.elim
  | ok => trivial
  | trap => trivial

theorem ErrorFree.clean {x : Call ρ σ ε α} {s : σ} (hx : ErrorFree x s) : CleanErrors x s :=
  fun env => (hx env).clean

section Sequencing

/-- An outcome with the writes made before it counted in. -/
def afterWrites (m : ℕ) : Outcome σ ε α → Outcome σ ε α
  | .ok a t n => .ok a t (m + n)
  | .error e t n => .error e t (m + n)
  | .trap passedOn => .trap passedOn

theorem afterWrites_zero (out : Outcome σ ε α) : afterWrites 0 out = out := by
  cases out <;> simp [afterWrites]

theorem NoError.afterWrites {out : Outcome σ ε α} (h : NoError out) (m : ℕ) :
    NoError (afterWrites m out) := by
  cases out with
  | error => exact h.elim
  | ok => trivial
  | trap => trivial

variable {x : Call ρ σ ε α} {f : α → Call ρ σ ε β} {env : ρ} {s : σ}

/-- What is shown of a sequence is shown of its second part after the first
returned, and of the error returns of the first. -/
theorem bind_outcome {P : Outcome σ ε β → Prop}
    (hok : ∀ a t m, x env s = .ok a t m → P (afterWrites m (f a env t)))
    (herror : ∀ e t m, x env s = .error e t m → P (.error e t m))
    (htrap : ∀ passedOn, P (.trap passedOn)) : P ((x >>= f) env s) := by
  change P (Call.bind x f env s)
  unfold Call.bind
  cases hout : x env s with
  | ok a t m =>
      have hrest := hok a t m hout
      cases hout' : f a env t <;> simpa [afterWrites, hout'] using hrest
  | error e t m => exact herror e t m hout
  | trap passedOn => exact htrap passedOn

theorem ReadOnly.bind (hx : ReadOnly x) (hf : ∀ a, ReadOnly (f a)) : ReadOnly (x >>= f) := by
  intro env s
  have hfirst := hx env s
  refine bind_outcome ?_ ?_ fun _ => trivial
  · intro a t m hout
    rw [hout] at hfirst
    obtain ⟨rfl, rfl⟩ := hfirst
    rw [afterWrites_zero]
    exact hf a env t
  · intro e t m hout
    rw [hout] at hfirst
    exact hfirst

theorem ReadOnly.bind_clean (hx : ReadOnly x)
    (hf : ∀ env a, Returns x env s a s → CleanErrors (f a) s) : CleanErrors (x >>= f) s := by
  intro env
  have hfirst := hx env s
  refine bind_outcome ?_ ?_ fun _ => trivial
  · intro a t m hout
    rw [hout] at hfirst
    obtain ⟨rfl, rfl⟩ := hfirst
    rw [afterWrites_zero]
    exact hf env a ⟨0, hout⟩ env
  · intro e t m hout
    rw [hout] at hfirst
    exact hfirst

theorem CleanErrors.bind (hx : CleanErrors x s)
    (hf : ∀ env a t, Returns x env s a t → ErrorFree (f a) t) : CleanErrors (x >>= f) s := by
  intro env
  have hfirst := hx env
  refine bind_outcome ?_ ?_ fun _ => trivial
  · intro a t m hout
    exact ((hf env a t ⟨m, hout⟩ env).afterWrites m).clean
  · intro e t m hout
    rw [hout] at hfirst
    exact hfirst

theorem ErrorFree.bind (hx : ErrorFree x s)
    (hf : ∀ env a t, Returns x env s a t → ErrorFree (f a) t) : ErrorFree (x >>= f) s := by
  intro env
  have hfirst := hx env
  refine bind_outcome ?_ ?_ fun _ => trivial
  · intro a t m hout
    exact (hf env a t ⟨m, hout⟩ env).afterWrites m
  · intro e t m hout
    rw [hout] at hfirst
    exact hfirst.elim

end Sequencing

theorem readOnly_pure (a : α) : ReadOnly (pure a : Call ρ σ ε α) :=
  fun _ _ => ⟨rfl, rfl⟩

theorem readOnly_context : ReadOnly (context : Call ρ σ ε ρ) :=
  fun _ _ => ⟨rfl, rfl⟩

theorem readOnly_load (g : σ → α) : ReadOnly (load g : Call ρ σ ε α) :=
  fun _ _ => ⟨rfl, rfl⟩

theorem readOnly_fail (reason : ε) : ReadOnly (fail reason : Call ρ σ ε α) :=
  fun _ _ => ⟨rfl, rfl⟩

theorem readOnly_failIf (c : Prop) [Decidable c] (reason : ε) :
    ReadOnly (failIf c reason : Call ρ σ ε Unit) := by
  unfold failIf
  split
  · exact readOnly_fail reason
  · exact readOnly_pure ()

theorem readOnly_okOr (value : Option α) (reason : ε) :
    ReadOnly (okOr value reason : Call ρ σ ε α) := by
  rcases value with _ | a
  · exact readOnly_fail reason
  · exact readOnly_pure a

theorem readOnly_require (c : Prop) [Decidable c] : ReadOnly (require c : Call ρ σ ε Unit) := by
  unfold require
  split
  · exact readOnly_pure ()
  · exact fun _ _ => trivial

theorem readOnly_orAbort (value : Option α) (passedOn : Option ε) :
    ReadOnly (orAbort value passedOn : Call ρ σ ε α) := by
  rcases value with _ | a
  · exact fun _ _ => trivial
  · exact readOnly_pure a

theorem readOnly_ite {c : Prop} [Decidable c] {x y : Call ρ σ ε α} (hx : ReadOnly x)
    (hy : ReadOnly y) : ReadOnly (if c then x else y) := by
  split
  · exact hx
  · exact hy

theorem errorFree_pure (a : α) (s : σ) : ErrorFree (pure a : Call ρ σ ε α) s :=
  fun _ => trivial

theorem errorFree_context (s : σ) : ErrorFree (context : Call ρ σ ε ρ) s :=
  fun _ => trivial

theorem errorFree_load (g : σ → α) (s : σ) : ErrorFree (load g : Call ρ σ ε α) s :=
  fun _ => trivial

theorem errorFree_store (g : σ → σ) (s : σ) : ErrorFree (store g : Call ρ σ ε Unit) s :=
  fun _ => trivial

theorem errorFree_require (c : Prop) [Decidable c] (s : σ) :
    ErrorFree (require c : Call ρ σ ε Unit) s := by
  unfold require
  split
  · exact errorFree_pure () s
  · exact fun _ => trivial

theorem errorFree_orAbort (value : Option α) (passedOn : Option ε) (s : σ) :
    ErrorFree (orAbort value passedOn : Call ρ σ ε α) s := by
  rcases value with _ | a
  · exact fun _ => trivial
  · exact errorFree_pure a s

end Writes

section Reads

/-- The outcomes report the same, and leave states that are related. -/
def SameReport (R : σ → σ → Prop) : Outcome σ ε α → Outcome σ ε α → Prop
  | .ok a t _, .ok b u _ => a = b ∧ R t u
  | .error e _ _, .error e' _ _ => e = e'
  | .trap passedOn, .trap passedOn' => passedOn = passedOn'
  | _, _ => False

/-- The reply of the call depends on the state only as far as the relation
looks at it, and not on the context. -/
def DeterminedBy (R : σ → σ → Prop) (x : Call ρ σ ε α) : Prop :=
  ∀ env env' s s', R s s' → SameReport R (x env s) (x env' s')

variable {R : σ → σ → Prop}

theorem DeterminedBy.reply_eq {x : Call ρ σ ε α} (hx : DeterminedBy R x) {s s' : σ}
    (h : R s s') (env env' : ρ) : (x env s).reply = (x env' s').reply := by
  have hagree := hx env env' s s' h
  cases hout : x env s <;> cases hout' : x env' s' <;> simp_all [SameReport, Outcome.reply]

theorem DeterminedBy.bind {x : Call ρ σ ε α} {f : α → Call ρ σ ε β} (hx : DeterminedBy R x)
    (hf : ∀ a, DeterminedBy R (f a)) : DeterminedBy R (x >>= f) := by
  intro env env' s s' h
  change SameReport R (Call.bind x f env s) (Call.bind x f env' s')
  unfold Call.bind
  have hfirst := hx env env' s s' h
  rcases hout : x env s with ⟨a, t, m⟩ | ⟨e, t, m⟩ | _ <;>
    rcases hout' : x env' s' with ⟨a', t', m'⟩ | ⟨e', t', m'⟩ | _ <;> rw [hout, hout'] at hfirst
  case ok.ok =>
    obtain ⟨rfl, hrelated⟩ := hfirst
    have hrest := hf a env env' t t' hrelated
    cases hrun : f a env t <;> cases hrun' : f a env' t' <;> simp_all [SameReport]
  case error.error => exact hfirst
  case trap.trap => exact hfirst
  all_goals exact hfirst.elim

theorem determinedBy_pure (a : α) : DeterminedBy R (pure a : Call ρ σ ε α) :=
  fun _ _ _ _ h => ⟨rfl, h⟩

theorem determinedBy_load {g : σ → α} (hg : ∀ s s', R s s' → g s = g s') :
    DeterminedBy R (load g : Call ρ σ ε α) :=
  fun _ _ s s' h => ⟨hg s s' h, h⟩

theorem determinedBy_failIf (c : Prop) [Decidable c] (reason : ε) :
    DeterminedBy R (failIf c reason : Call ρ σ ε Unit) := by
  unfold failIf
  split
  · exact fun _ _ _ _ _ => rfl
  · exact determinedBy_pure ()

theorem determinedBy_okOr (value : Option α) (reason : ε) :
    DeterminedBy R (okOr value reason : Call ρ σ ε α) := by
  rcases value with _ | a
  · exact fun _ _ _ _ _ => rfl
  · exact determinedBy_pure a

theorem determinedBy_require (c : Prop) [Decidable c] :
    DeterminedBy R (require c : Call ρ σ ε Unit) := by
  unfold require
  split
  · exact determinedBy_pure ()
  · exact fun _ _ _ _ _ => rfl

end Reads

end PredictX.Footprints
