import PredictX.HostCall
import PredictX.LabelledRuns

namespace PredictX.Transactions

open PredictX.HostCall
open PredictX.HostCall.Call
open PredictX.LabelledRuns

variable {ρ σ ε α ι : Type} {execute : ι → Call ρ σ ε α}

def transact (execute : ι → Call ρ σ ε α) (s : σ) (t : ρ × ι) : Reply ε α × σ :=
  (execute t.2 t.1 s).commit s

theorem transact_cases (execute : ι → Call ρ σ ε α) (s : σ) (env : ρ) (op : ι) :
    (∃ a t, transact execute s (env, op) = (.ok a, t) ∧ Returns (execute op) env s a t) ∨
      (transact execute s (env, op)).2 = s ∧ ∀ a, (transact execute s (env, op)).1 ≠ .ok a :=
  commit_cases (execute op) env s

/-- A property kept by every call that returns, and that may speak about the
accepted calls so far, holds after every run. -/
theorem transactions_induction {P : List (Entry σ (ρ × ι) (Reply ε α)) → σ → Prop} {s : σ}
    (hstart : P [] s)
    (hok : ∀ h s env op a t, P h s → Returns (execute op) env s a t →
      P (h ++ [⟨s, (env, op), .ok a, t⟩]) t)
    (hrefused : ∀ h s env op reply, P h s → (∀ a, reply ≠ .ok a) →
      P (h ++ [⟨s, (env, op), reply, s⟩]) s) (calls : List (ρ × ι)) :
    P (trace (transact execute) s calls) (run (transact execute) s calls) := by
  refine run_induction hstart ?_ calls
  rintro h t ⟨env, op⟩ ih
  rcases transact_cases execute t env op with ⟨a, t', hcall, hreturns⟩ | ⟨hsame, hne⟩
  · rw [entry, hcall]
    exact hok h t env op a t' ih hreturns
  · rw [entry, hsame]
    exact hrefused h t env op _ ih hne

theorem transactions_forall {Q : Entry σ (ρ × ι) (Reply ε α) → Prop}
    (hok : ∀ s env op a t, Returns (execute op) env s a t → Q ⟨s, (env, op), .ok a, t⟩)
    (hrefused : ∀ s env op reply, (∀ a, reply ≠ .ok a) → Q ⟨s, (env, op), reply, s⟩)
    {s : σ} {calls : List (ρ × ι)} {e : Entry σ (ρ × ι) (Reply ε α)}
    (he : e ∈ trace (transact execute) s calls) : Q e := by
  obtain ⟨_, _, _, _, hentry⟩ := exists_of_mem_trace he
  rw [hentry]
  rcases transact_cases execute e.before e.input.1 e.input.2 with
    ⟨a, t, hcall, hreturns⟩ | ⟨hsame, hne⟩
  · rw [entry, hcall]
    exact hok _ _ _ a t hreturns
  · rw [entry, hsame]
    exact hrefused _ _ _ _ hne

end PredictX.Transactions
