import Mathlib.Data.List.Perm.Basic
import PredictX.LabelledRuns

namespace PredictX.Interchange

open PredictX.LabelledRuns

variable {σ κ ρ : Type} {reply : κ → σ → ρ} {effect : κ → ρ → σ → σ}

def respond (reply : κ → σ → ρ) (effect : κ → ρ → σ → σ) (s : σ) (c : κ) : ρ × σ :=
  (reply c s, effect c (reply c s) s)

/-- Whatever is answered to `d`, the call `c` gets the same reply before and
after it, and their changes can be made in either order. -/
structure Independent (reply : κ → σ → ρ) (effect : κ → ρ → σ → σ) (c d : κ) : Prop where
  reply_eq : ∀ r s, reply c (effect d r s) = reply c s
  effect_comm : ∀ r r' s, effect c r (effect d r' s) = effect d r' (effect c r s)

theorem run_eq_foldl {step : σ → κ → ρ × σ} (s : σ) (cs : List κ) :
    run step s cs = cs.foldl (fun t c => (step t c).2) s := by
  induction cs generalizing s with
  | nil => rfl
  | cons c cs ih => exact ih _

theorem replies_eq (cs : List κ)
    (h : cs.Pairwise fun c d => Independent reply effect d c) (s : σ) :
    (trace (respond reply effect) s cs).map (·.output) = cs.map (reply · s) := by
  induction cs generalizing s with
  | nil => rfl
  | cons c cs ih =>
      obtain ⟨hfirst, hrest⟩ := List.pairwise_cons.mp h
      change reply c s :: _ = reply c s :: _
      rw [ih hrest]
      congr 1
      apply List.map_congr_left
      intro d hd
      exact (hfirst d hd).reply_eq _ _

theorem run_perm {cs cs' : List κ} (hperm : cs.Perm cs')
    (h : ∀ c ∈ cs, ∀ d ∈ cs, c ≠ d → Independent reply effect c d) (s : σ) :
    run (respond reply effect) s cs = run (respond reply effect) s cs' := by
  rw [run_eq_foldl, run_eq_foldl]
  apply hperm.foldl_eq'
  intro c hc d hd t
  by_cases hcd : c = d
  · rw [hcd]
  · have hdc : d ≠ c := fun heq => hcd heq.symm
    simp only [respond]
    rw [(h d hd c hc hdc).reply_eq, (h c hc d hd hcd).reply_eq]
    exact (h d hd c hc hdc).effect_comm _ _ _

end PredictX.Interchange
