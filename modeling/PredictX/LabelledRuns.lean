import Mathlib.Data.List.Induction
import Mathlib.Data.List.Nodup

namespace PredictX.LabelledRuns

variable {σ ι ο : Type}

structure Entry (σ ι ο : Type) where
  before : σ
  input : ι
  output : ο
  after : σ

def entry (step : σ → ι → ο × σ) (s : σ) (i : ι) : Entry σ ι ο where
  before := s
  input := i
  output := (step s i).1
  after := (step s i).2

def run (step : σ → ι → ο × σ) (s : σ) : List ι → σ
  | [] => s
  | i :: is => run step (step s i).2 is

def trace (step : σ → ι → ο × σ) (s : σ) : List ι → List (Entry σ ι ο)
  | [] => []
  | i :: is => entry step s i :: trace step (step s i).2 is

variable {step : σ → ι → ο × σ} {s : σ}

theorem run_append (is js : List ι) :
    run step s (is ++ js) = run step (run step s is) js := by
  induction is generalizing s with
  | nil => rfl
  | cons i is ih => exact ih

theorem trace_append (is js : List ι) :
    trace step s (is ++ js) = trace step s is ++ trace step (run step s is) js := by
  induction is generalizing s with
  | nil => rfl
  | cons i is ih => exact congrArg (entry step s i :: ·) ih

theorem run_concat (is : List ι) (i : ι) :
    run step s (is ++ [i]) = (step (run step s is) i).2 :=
  run_append is [i]

theorem trace_concat (is : List ι) (i : ι) :
    trace step s (is ++ [i]) = trace step s is ++ [entry step (run step s is) i] :=
  trace_append is [i]

theorem entry_mem_trace (is : List ι) (i : ι) :
    entry step (run step s is) i ∈ trace step s (is ++ [i]) := by
  rw [trace_concat]
  exact List.mem_append_right _ (List.mem_singleton_self _)

theorem length_trace (is : List ι) : (trace step s is).length = is.length := by
  induction is generalizing s with
  | nil => rfl
  | cons i is ih => exact congrArg (· + 1) ih

theorem run_cons {i : ι} {o : ο} {t : σ} (h : step s i = (o, t)) (is : List ι) :
    run step s (i :: is) = run step t is := by
  rw [run, h]

theorem outputs_cons {i : ι} {o : ο} {t : σ} (h : step s i = (o, t)) (is : List ι) :
    (trace step s (i :: is)).map (·.output) = o :: (trace step t is).map (·.output) := by
  rw [trace, List.map_cons, entry, h]

/-- Two runs, the second without the inputs that `g` drops: if a step keeps the
states related, whether it is matched or dropped, so does a run, and the outputs
of the matched steps correspond. -/
theorem run_related {R : σ → σ → Prop} {g : ι → Option ι} {v : ο → ο}
    (hmatched : ∀ s s' i i', R s s' → g i = some i' →
      (step s' i').1 = v (step s i).1 ∧ R (step s i).2 (step s' i').2)
    (hdropped : ∀ s s' i, R s s' → g i = none → R (step s i).2 s') {s s' : σ} (h : R s s')
    (is : List ι) :
    R (run step s is) (run step s' (is.filterMap g)) ∧
      (trace step s' (is.filterMap g)).map (·.output) =
        ((trace step s is).filter fun e => (g e.input).isSome).map fun e => v e.output := by
  induction is generalizing s s' with
  | nil => exact ⟨h, rfl⟩
  | cons i is ih =>
      cases hg : g i with
      | none =>
          obtain ⟨hrun, houtputs⟩ := ih (hdropped s s' i h hg)
          rw [List.filterMap_cons_none hg, trace, List.filter_cons_of_neg (by simp [entry, hg])]
          exact ⟨hrun, houtputs⟩
      | some i' =>
          obtain ⟨houtput, hstep⟩ := hmatched s s' i i' h hg
          obtain ⟨hrun, houtputs⟩ := ih hstep
          rw [List.filterMap_cons_some hg, trace, trace,
            List.filter_cons_of_pos (by simp [entry, hg]), List.map_cons, List.map_cons, houtputs]
          exact ⟨hrun, congrArg (· :: _) houtput⟩

theorem split_concat {is before after : List ι} {i j : ι}
    (h : is ++ [j] = before ++ i :: after) : i ∈ is ∨ before = is ∧ i = j := by
  induction after using List.reverseRecOn with
  | nil =>
      obtain ⟨hbefore, hlast⟩ := List.append_inj' h rfl
      exact .inr ⟨hbefore.symm, (List.singleton_inj.mp hlast).symm⟩
  | append_singleton after k =>
      rw [← List.cons_append, ← List.append_assoc] at h
      rw [(List.append_inj' h rfl).1]
      exact .inl (List.mem_append_right _ List.mem_cons_self)

theorem exists_of_mem_trace {e : Entry σ ι ο} {is : List ι} (h : e ∈ trace step s is) :
    ∃ before after, is = before ++ e.input :: after ∧ e.before = run step s before ∧
      e = entry step e.before e.input := by
  induction is generalizing s with
  | nil => simp [trace] at h
  | cons i is ih =>
      rcases List.mem_cons.mp h with rfl | hrest
      · exact ⟨[], is, rfl, rfl, rfl⟩
      · obtain ⟨before, after, rfl, he⟩ := ih hrest
        exact ⟨i :: before, after, rfl, he⟩

theorem input_mem {e : Entry σ ι ο} {is : List ι} (h : e ∈ trace step s is) : e.input ∈ is := by
  obtain ⟨before, after, his, -⟩ := exists_of_mem_trace h
  rw [his]
  exact List.mem_append_right _ List.mem_cons_self

/-- What holds at the start, and is kept by every step, holds at the end; it
may speak about the steps taken so far. -/
theorem run_induction {P : List (Entry σ ι ο) → σ → Prop} (hstart : P [] s)
    (hstep : ∀ h t i, P h t → P (h ++ [entry step t i]) (step t i).2) (is : List ι) :
    P (trace step s is) (run step s is) := by
  induction is using List.reverseRecOn with
  | nil => exact hstart
  | append_singleton is i ih =>
      rw [trace_concat, run_concat]
      exact hstep _ _ _ ih

/-- A property kept by the steps that meet a condition holds throughout a run
in which every step meets it. -/
theorem run_invariant_of_steps {P : σ → Prop} {Meets : Entry σ ι ο → Prop} (hstart : P s)
    (hstep : ∀ t i, P t → Meets (entry step t i) → P (step t i).2) {is : List ι}
    (hall : ∀ e ∈ trace step s is, Meets e) :
    P (run step s is) ∧ ∀ e ∈ trace step s is, P e.before ∧ P e.after := by
  refine run_induction (P := fun h t => (∀ e ∈ h, Meets e) →
    P t ∧ ∀ e ∈ h, P e.before ∧ P e.after) (fun _ => ⟨hstart, by simp⟩) ?_ is hall
  intro h t i ih hmeets
  obtain ⟨ht, hbefore⟩ := ih fun e he => hmeets e (List.mem_append_left _ he)
  have hnext := hstep t i ht (hmeets _ (List.mem_append_right _ (List.mem_singleton_self _)))
  refine ⟨hnext, ?_⟩
  intro e he
  rcases List.mem_append.mp he with hold | hlast
  · exact hbefore e hold
  · rw [List.mem_singleton.mp hlast]
    exact ⟨ht, hnext⟩

theorem trace_split {is : List ι} {h₁ h₂ : List (Entry σ ι ο)} {e : Entry σ ι ο}
    (h : trace step s is = h₁ ++ e :: h₂) :
    ∃ js, trace step e.after js = h₂ ∧ run step e.after js = run step s is := by
  induction h₁ generalizing s is with
  | nil =>
      cases is with
      | nil => simp [trace] at h
      | cons i is =>
          obtain ⟨rfl, rfl⟩ := List.cons.inj h
          exact ⟨is, rfl, rfl⟩
  | cons e₁ h₁ ih =>
      cases is with
      | nil => simp [trace] at h
      | cons i is =>
          obtain ⟨js, htrace, hrun⟩ := ih (List.cons.inj h).2
          exact ⟨js, htrace, hrun⟩

section Registers

variable {ν : Type} {write : Entry σ ι ο → Option ν}

/-- A part of the state that each step overwrites or keeps holds the last
value written in the run. -/
theorem run_last_write {register : σ → Option ν} (hstart : register s = none)
    (hstep : ∀ t i, register (step t i).2 = (write (entry step t i)).or (register t))
    (is : List ι) : register (run step s is) = ((trace step s is).filterMap write).getLast? := by
  refine run_induction (P := fun h t => register t = (h.filterMap write).getLast?) hstart ?_ is
  intro h t i ih
  rw [hstep, ih, List.filterMap_append]
  cases hwrite : write (entry step t i) <;> simp [hwrite]

theorem stamp_le_last (clock : σ → ℕ) {stamp : ν → ℕ}
    (hclock : ∀ t i, clock t ≤ clock (step t i).2)
    (hstamp : ∀ t i v, write (entry step t i) = some v → stamp v = clock t) (is : List ι)
    {last : ν} (hlast : ((trace step s is).filterMap write).getLast? = some last) :
    ∀ v ∈ (trace step s is).filterMap write, stamp v ≤ stamp last := by
  refine (run_induction (P := fun h t => (∀ v ∈ h.filterMap write, stamp v ≤ clock t) ∧
    ∀ last, (h.filterMap write).getLast? = some last →
      ∀ v ∈ h.filterMap write, stamp v ≤ stamp last) ⟨by simp, by simp⟩ ?_ is).2 last hlast
  rintro h t i ⟨hpast, horder⟩
  have hmono := hclock t i
  rw [List.filterMap_append]
  cases hwrite : write (entry step t i) with
  | none =>
      simp only [List.filterMap_cons, hwrite, List.filterMap_nil, List.append_nil]
      exact ⟨fun v hv => Nat.le_trans (hpast v hv) hmono, horder⟩
  | some new =>
      have hnew := hstamp t i new hwrite
      have hbound : ∀ v ∈ h.filterMap write ++ [new], stamp v ≤ stamp new := by
        intro v hv
        rcases List.mem_append.mp hv with hold | hlast
        · rw [hnew]
          exact hpast v hold
        · cases List.mem_singleton.mp hlast
          exact Nat.le_refl _
      simp only [List.filterMap_cons, hwrite, List.filterMap_nil]
      rw [hnew] at hbound
      refine ⟨fun v hv => Nat.le_trans (hbound v hv) hmono, ?_⟩
      intro last hlast
      rw [List.getLast?_concat] at hlast
      cases hlast
      rw [hnew]
      exact hbound

theorem run_write_once {register : σ → Option ν} {P : σ → Prop} (hstart : P s)
    (hkept : ∀ t i, P t → P (step t i).2)
    (hstep : ∀ t i, register (step t i).2 = (write (entry step t i)).or (register t))
    (hfresh : ∀ t i v, P t → write (entry step t i) = some v → register t = none) (is : List ι) :
    ((trace step s is).filterMap write).length ≤ 1 := by
  refine (run_induction (P := fun h t => P t ∧ (h.filterMap write).length ≤ 1 ∧
    (register t = none → h.filterMap write = [])) ⟨hstart, Nat.zero_le 1, fun _ => rfl⟩ ?_ is).2.1
  rintro h t i ⟨ht, hshort, hnone⟩
  refine ⟨hkept t i ht, ?_⟩
  rw [hstep, List.filterMap_append]
  cases hwrite : write (entry step t i) with
  | none =>
      simp only [List.filterMap_cons, hwrite, List.filterMap_nil, List.append_nil, Option.none_or]
      exact ⟨hshort, hnone⟩
  | some v =>
      rw [hnone (hfresh t i v ht hwrite)]
      simp [hwrite]

end Registers

end PredictX.LabelledRuns
