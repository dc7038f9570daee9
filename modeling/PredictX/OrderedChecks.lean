import PredictX.Footprints

/-!
Calls that make their checks one after the other.  The reply is the refusal of
the first check that fails; what is shown here takes the checks off a call one
by one, in the order in which it makes them.
-/

namespace PredictX.OrderedChecks

open PredictX.Footprints
open PredictX.HostCall
open PredictX.HostCall.Call

/-- A check that refuses a call: with an error, by aborting it, or because a
call made to another contract fails, maybe with an error of that contract. -/
inductive Check (ε : Type) where
  | error (fails : Bool) (reason : ε)
  | abort (fails : Bool)
  | callee (fails : Bool) (passedOn : Option ε)

variable {ρ σ ε α β γ : Type}

def Check.fails : Check ε → Bool
  | .error fails _ => fails
  | .abort fails => fails
  | .callee fails _ => fails

def Check.refusal : Check ε → Reply ε α
  | .error _ reason => .error reason
  | .abort _ => .trap none
  | .callee _ passedOn => .trap passedOn

/-- The refusal of the first check that fails, and the value if none does. -/
def verdict (value : α) : List (Check ε) → Reply ε α
  | [] => .ok value
  | c :: rest => if c.fails = true then c.refusal else verdict value rest

theorem verdict_map {g : α → β} {value : α} (checks : List (Check ε)) :
    verdict (g value) checks = (verdict value checks).map g := by
  induction checks with
  | nil => rfl
  | cons c rest ih =>
      rw [verdict, verdict, ih]
      split
      · cases c with
        | error | abort | callee => rfl
      · rfl

theorem refusal_ne_ok (c : Check ε) (a : α) : c.refusal ≠ .ok a := by
  cases c with
  | error | abort | callee => exact fun h => nomatch h

theorem verdict_eq_ok {value a : α} {checks : List (Check ε)} :
    verdict value checks = .ok a ↔ a = value ∧ ∀ c ∈ checks, c.fails = false := by
  induction checks with
  | nil =>
      rw [verdict, Reply.ok.injEq, and_iff_left (List.forall_mem_nil _)]
      exact eq_comm
  | cons c rest ih =>
      rw [verdict, List.forall_mem_cons]
      split
      · rename_i hfails
        simp [hfails, refusal_ne_ok]
      · rename_i hpasses
        rw [ih]
        simp [hpasses]

/-- A refusal is that of a check that failed where all earlier ones passed. -/
theorem exists_of_verdict {value : α} {checks : List (Check ε)} {reply : Reply ε α}
    (h : verdict value checks = reply) (hrefused : ∀ a, reply ≠ .ok a) :
    ∃ earlier c later, checks = earlier ++ c :: later ∧ c.fails = true ∧ c.refusal = reply ∧
      ∀ c' ∈ earlier, c'.fails = false := by
  induction checks with
  | nil => exact absurd h.symm (hrefused value)
  | cons c rest ih =>
      rw [verdict] at h
      split at h
      · rename_i hfails
        exact ⟨[], c, rest, rfl, hfails, h, by simp⟩
      · rename_i hpasses
        obtain ⟨earlier, c', later, rfl, hfails, hreply, hearlier⟩ := ih h
        refine ⟨c :: earlier, c', later, rfl, hfails, hreply, ?_⟩
        exact List.forall_mem_cons.mpr ⟨Bool.eq_false_iff.mpr hpasses, hearlier⟩

def Check.reason : Check ε → Option ε
  | .error _ reason => some reason
  | .abort _ => none
  | .callee _ _ => none

def Check.passedOn : Check ε → Option ε
  | .error _ _ => none
  | .abort _ => none
  | .callee _ passedOn => passedOn

def Check.aborts : Check ε → Bool
  | .error _ _ => false
  | .abort fails => fails
  | .callee fails _ => fails

theorem reason_of_verdict {value : α} {checks : List (Check ε)} {reason : ε}
    (h : verdict value checks = .error reason) : reason ∈ checks.filterMap Check.reason := by
  obtain ⟨earlier, c, later, rfl, -, hrefusal, -⟩ := exists_of_verdict h (fun _ => nofun)
  refine List.mem_filterMap.mpr ⟨c, List.mem_append_right _ List.mem_cons_self, ?_⟩
  cases c with
  | error =>
      cases hrefusal
      rfl
  | abort | callee => cases hrefusal

theorem passedOn_of_verdict {value : α} {checks : List (Check ε)} {reason : ε}
    (h : verdict value checks = .trap (some reason)) :
    reason ∈ checks.filterMap Check.passedOn := by
  obtain ⟨earlier, c, later, rfl, -, hrefusal, -⟩ := exists_of_verdict h (fun _ => nofun)
  refine List.mem_filterMap.mpr ⟨c, List.mem_append_right _ List.mem_cons_self, ?_⟩
  cases c with
  | callee =>
      cases hrefusal
      rfl
  | error | abort => cases hrefusal

theorem aborts_of_verdict {value : α} {checks : List (Check ε)} {passedOn : Option ε}
    (h : verdict value checks = .trap passedOn) : checks.any Check.aborts = true := by
  obtain ⟨earlier, c, later, rfl, hfails, hrefusal, -⟩ := exists_of_verdict h (fun _ => nofun)
  refine List.any_eq_true.mpr ⟨c, List.mem_append_right _ List.mem_cons_self, ?_⟩
  cases c with
  | error => cases hrefusal
  | abort | callee => exact hfails

theorem fails_of_aborts {c : Check ε} (h : c.aborts = true) : c.fails = true := by
  cases c with
  | error => exact absurd h Bool.false_ne_true
  | abort | callee => exact h

section Rules

variable {x : Call ρ σ ε α} {f : α → Call ρ σ ε β} {g : β → γ} {value : γ} {env : ρ} {s t : σ}
  {rest : List (Check ε)} {a : α}

theorem reply_check {c : Check ε} (hfails : c.fails = true → (x env s).reply = c.refusal)
    (hpasses : c.fails = false → Returns x env s a t)
    (h : c.fails = false → (f a env t).reply.map g = verdict value rest) :
    ((x >>= f) env s).reply.map g = verdict value (c :: rest) := by
  rw [verdict]
  split
  · rename_i hc
    cases c with
    | error =>
        rw [reply_bind_error (hfails hc)]
        rfl
    | abort | callee =>
        rw [reply_bind_trap (hfails hc)]
        rfl
  · rename_i hc
    have hpassed := Bool.eq_false_iff.mpr hc
    rw [reply_bind (hpasses hpassed)]
    exact h hpassed

theorem reply_pass (hreturns : Returns x env s a t)
    (h : (f a env t).reply.map g = verdict value rest) :
    ((x >>= f) env s).reply.map g = verdict value rest := by
  rw [reply_bind hreturns]
  exact h

theorem reply_check_failIf {c : Prop} [Decidable c] {reason : ε} {fails : Bool}
    {f : Unit → Call ρ σ ε β} (hiff : fails = true ↔ c)
    (h : ¬ c → (f () env s).reply.map g = verdict value rest) :
    ((failIf c reason >>= f) env s).reply.map g = verdict value (.error fails reason :: rest) := by
  refine reply_check (a := ()) (t := s) (fun hfails => reply_failIf (hiff.mp hfails)) ?_ ?_
  · intro hpasses
    exact failIf_returns.mpr ⟨fun hc => Bool.eq_false_iff.mp hpasses (hiff.mpr hc), rfl⟩
  · intro hpasses
    exact h fun hc => Bool.eq_false_iff.mp hpasses (hiff.mpr hc)

theorem reply_check_okOr {stored : Option α} {reason : ε}
    (h : ∀ a, stored = some a → (f a env s).reply.map g = verdict value rest) :
    ((okOr stored reason >>= f) env s).reply.map g =
      verdict value (.error stored.isNone reason :: rest) := by
  rcases stored with _ | a
  · rfl
  · exact reply_pass (okOr_returns.mpr ⟨rfl, rfl⟩) (h a rfl)

theorem reply_check_require {c : Prop} [Decidable c] {fails : Bool} {f : Unit → Call ρ σ ε β}
    (hiff : fails = true ↔ ¬ c) (h : c → (f () env s).reply.map g = verdict value rest) :
    ((require c >>= f) env s).reply.map g = verdict value (.abort fails :: rest) := by
  have hpassed : fails = false → c := fun hpasses =>
    Decidable.not_not.mp fun hc => Bool.eq_false_iff.mp hpasses (hiff.mpr hc)
  exact reply_check (a := ()) (fun hfails => reply_require (hiff.mp hfails))
    (fun hpasses => require_returns.mpr ⟨hpassed hpasses, rfl⟩) (fun hpasses => h (hpassed hpasses))

theorem reply_check_callee {δ : Type} {returned : Option δ} {passedOn : Option ε} {a : δ → α}
    {t : δ → σ} (hfails : returned = none → (x env s).reply = .trap passedOn)
    (hpasses : ∀ d, returned = some d → Returns x env s (a d) (t d))
    (h : ∀ d, returned = some d → (f (a d) env (t d)).reply.map g = verdict value rest) :
    ((x >>= f) env s).reply.map g =
      verdict value (.callee returned.isNone passedOn :: rest) := by
  cases hreturned : returned with
  | none =>
      rw [reply_bind_trap (hfails hreturned)]
      rfl
  | some d => exact reply_pass (hpasses d hreturned) (h d hreturned)

end Rules

end PredictX.OrderedChecks
