import PredictX.Bookkeeping

namespace PredictX.AdminAuthority

open PredictX.Bookkeeping
open PredictX.CommittedCalls
open PredictX.HostCall
open PredictX.LabelledRuns
open PredictX.MarketStorage
open PredictX.PredictionMarket
open PredictX.SharedTypes
open PredictX.System
open PredictX.TokenContracts

variable {N : Network}

/-- What `initialize` stores and nothing else writes. -/
def configuration (m : Market) : Option Address × Option Address × Option Address × Option ℕ :=
  (m.admin, m.tokenAddress, m.treasuryAddress, m.platformFeeBps)

/-- What is left to the admin. -/
def controlled (m : Market) :
    Option Bool × Option Address × Option ℕ × FiniteStore.Store ℕ Match :=
  (m.paused, m.votingOracle, m.nextMatchId, m.matchRecords)

/-- The transaction set the market up. -/
def Initializes (e : Transaction N) : Prop :=
  ∃ signatures admin votingOracle tokenAddress treasuryAddress platformFeeBps value,
    e.input = .market signatures
        (.initializeMarket admin votingOracle tokenAddress treasuryAddress platformFeeBps) ∧
      e.output = .ok value

theorem configuration_step {w w' : World N} {a : Action N} {reply : Reply PredictXError Value}
    (hstep : Step w a reply w') {admin : Address} (h : w.market.admin = some admin) :
    configuration w'.market = configuration w.market := by
  cases hstep with
  | market committed =>
      cases committed with
      | initializeMarket fresh =>
          rw [fresh] at h
          simp at h
      | _ => rfl
  | _ => rfl

theorem not_initializes {w w' : World N} {a : Action N} {reply : Reply PredictXError Value}
    (hstep : Step w a reply w') {admin : Address} (h : w.market.admin = some admin) :
    ¬ Initializes (⟨w, a, reply, w'⟩ : Transaction N) := by
  rintro ⟨signatures, admin', oracle, token, treasury, fee, value, rfl, rfl⟩
  cases hstep with
  | rejected failed => exact failed value rfl
  | market committed =>
      cases committed with
      | initializeMarket fresh =>
          rw [fresh] at h
          simp at h

theorem initialize_configures {w w' : World N} {signatures : Signatures N}
    {admin votingOracle tokenAddress treasuryAddress : Address} {platformFeeBps : ℕ}
    {value : Value}
    (hstep : Step w (.market signatures
      (.initializeMarket admin votingOracle tokenAddress treasuryAddress platformFeeBps))
      (.ok value) w') :
    configuration w'.market =
      (some admin, some tokenAddress, some treasuryAddress, some platformFeeBps) := by
  cases hstep with
  | rejected failed => exact absurd rfl (failed value)
  | market committed =>
      cases committed with
      | initializeMarket => rfl

theorem unconfigured_step {w w' : World N} {a : Action N} {reply : Reply PredictXError Value}
    (hstep : Step w a reply w') (hother : ¬ Initializes (⟨w, a, reply, w'⟩ : Transaction N))
    (h : w.market.admin = none) : w'.market.admin = none := by
  cases hstep with
  | market committed =>
      cases committed with
      | initializeMarket => exact absurd ⟨_, _, _, _, _, _, _, rfl, rfl⟩ hother
      | _ => exact h
  | _ => exact h

theorem controlled_step {w w' : World N} {a : Action N} {reply : Reply PredictXError Value}
    (hstep : Step w a reply w') (hchange : controlled w'.market ≠ controlled w.market) :
    ∃ admin signatures op, w'.market.admin = some admin ∧ a = .market signatures op ∧
      signatures.accepts N.market admin = true := by
  cases hstep with
  | @market signatures op _ _ committed =>
      have hsigned : ∀ {admin : Address}, w'.market.admin = some admin →
          (callEnv N.market signatures w.now).authorises admin = true →
          ∃ admin signatures' op', w'.market.admin = some admin ∧
            (.market signatures op : Action N) = .market signatures' op' ∧
            signatures'.accepts N.market admin = true := by
        intro admin hadmin hauthorised
        exact ⟨admin, signatures, op, hadmin, rfl, callEnv_authorises.symm.trans hauthorised⟩
      cases committed with
      | initializeMarket _ authorised => exact hsigned rfl authorised
      | setOracle _ admin_found authorised => exact hsigned admin_found authorised
      | pause admin_found authorised => exact hsigned admin_found authorised
      | unpause admin_found authorised => exact hsigned admin_found authorised
      | createMatch authorised admin_found => exact hsigned admin_found authorised
      | updateMatch authorised admin_found => exact hsigned admin_found authorised
      | finishMatch authorised admin_found => exact hsigned admin_found authorised
      | _ => exact absurd rfl hchange
  | _ => exact absurd rfl hchange

theorem configuration_kept {x : Execution N} {e : Transaction N} (he : e ∈ x.history)
    {admin : Address} (h : e.after.market.admin = some admin) :
    configuration x.final.market = configuration e.after.market := by
  obtain ⟨earlier, later, hsplit⟩ := List.append_of_mem he
  have hall : ∀ e' ∈ later, True := fun _ _ => trivial
  refine (invariant_after (P := fun w : World N =>
    configuration w.market = configuration e.after.market) hsplit rfl ?_ hall).1
  intro w a reply w' _ hstep _ hsame
  exact (configuration_step hstep ((congrArg Prod.fst hsame).trans h)).trans hsame

theorem configuration_later (x : Execution N) {admin : Address}
    (h : x.final.market.admin = some admin) (later : List (Action N)) :
    configuration (x.andThen later).final.market = configuration x.final.market := by
  refine invariant_later (P := fun w : World N =>
    configuration w.market = configuration x.final.market) x rfl ?_ later
  intro w a reply w' _ hstep hsame
  exact (configuration_step hstep ((congrArg Prod.fst hsame).trans h)).trans hsame

theorem admin_kept {x : Execution N} {e : Transaction N} (he : e ∈ x.history) {admin : Address}
    (h : e.after.market.admin = some admin) : x.final.market.admin = some admin :=
  (congrArg Prod.fst (configuration_kept he h)).trans h

theorem unconfigured_run (x : Execution N) (hall : ∀ e ∈ x.history, ¬ Initializes e) :
    x.final.market.admin = none :=
  (invariant_run (P := fun w : World N => w.market.admin = none) (consistent_deployed _) rfl
    (fun _ hstep hother h => unconfigured_step hstep hother h) hall).1

theorem stakes_unconfigured {contract : Address} {m : Market} (hcons : Consistent contract m)
    (h : m.admin = none) : m.stakes = ∅ := by
  have hpolls := (hcons.unconfigured h).2
  apply Finmap.ext_lookup
  rintro ⟨pollId, user⟩
  rw [Finmap.lookup_empty, Option.eq_none_iff_forall_ne_some]
  intro record hrecord
  have hfound := (hcons.record pollId user record hrecord).poll_found
  rw [hpolls] at hfound
  exact Finmap.notMem_empty hfound

/-- The first successful `initialize` fixes the configuration for good; what
the rest of the run changes of the pause flag, the oracle, the match counter or
a match, it changes with the signature of that admin; and before it nothing is
stored and none of this changes. -/
theorem no_privilege_escalation (x : Execution N) :
    (∀ earlier e later signatures admin oracle token treasury fee value,
      x.history = earlier ++ e :: later →
      e.input = .market signatures (.initializeMarket admin oracle token treasury fee) →
      e.output = .ok value →
        configuration x.final.market = (some admin, some token, some treasury, some fee) ∧
          (∀ e' ∈ later, ¬ Initializes e') ∧
          ∀ e' ∈ x.history, controlled e'.after.market ≠ controlled e'.before.market →
            ∃ signatures' op, e'.input = .market signatures' op ∧
              signatures'.accepts N.market admin = true) ∧
      ((∀ e ∈ x.history, ¬ Initializes e) → x.final.market.matchRecords = ∅ ∧
        x.final.market.polls = ∅ ∧ x.final.market.stakes = ∅ ∧
        ∀ e ∈ x.history, controlled e.after.market = controlled e.before.market) := by
  refine ⟨?_, ?_⟩
  · intro earlier e later signatures admin oracle token treasury fee value hsplit hcall hok
    have he : e ∈ x.history := by simp [hsplit]
    have hstep := Execution.step_of_mem he
    rw [hcall, hok] at hstep
    have hall : ∀ e' ∈ later, True := fun _ _ => trivial
    obtain ⟨hfinal, hbetween⟩ := invariant_after (P := fun w : World N =>
      configuration w.market = (some admin, some token, some treasury, some fee)) hsplit
      (initialize_configures hstep)
      (fun _ hdone _ hw => (configuration_step hdone (congrArg Prod.fst hw)).trans hw) hall
    refine ⟨hfinal, ?_, ?_⟩
    · intro e' he'
      have hmem : e' ∈ x.history := by simp [hsplit, he']
      exact not_initializes (Execution.step_of_mem hmem) (congrArg Prod.fst (hbetween e' he'))
    · intro e' he' hchange
      obtain ⟨admin', signatures', op, hadmin, hinput, hsigned⟩ :=
        controlled_step (Execution.step_of_mem he') hchange
      have hsame := (admin_kept he' hadmin).symm.trans (congrArg Prod.fst hfinal)
      cases hsame
      exact ⟨signatures', op, hinput, hsigned⟩
  · intro hall
    have hadmin := unconfigured_run x hall
    obtain ⟨hmatches, hpolls⟩ := (consistent_run x).unconfigured hadmin
    refine ⟨hmatches, hpolls, stakes_unconfigured (consistent_run x) hadmin, ?_⟩
    intro e he
    by_contra hchange
    obtain ⟨admin, _, _, hset, -⟩ := controlled_step (Execution.step_of_mem he) hchange
    cases hadmin.symm.trans (admin_kept he hset)

end PredictX.AdminAuthority
