import PredictX.PollFreeze

namespace PredictX.OracleLifecycle

open PredictX.Bookkeeping
open PredictX.FiniteStore
open PredictX.HostCall
open PredictX.LabelledRuns
open PredictX.MarketStorage
open PredictX.PollFreeze
open PredictX.PredictionMarket
open PredictX.SharedTypes
open PredictX.System
open PredictX.TokenContracts
open PredictX.VotingOracle

variable {N : Network}

inductive OracleChange (w : World N) (a : Action N) (oracleId : Address) : OracleStorage →
    OracleStorage → Prop where
  | same {s : OracleStorage} : OracleChange w a oracleId s s
  | adopted {s : OracleStorage} {admin : Address} :
      OracleChange w a oracleId s { s with admin := some admin }
  | recorded {s : OracleStorage} {signatures : Signatures N} {pollId : ℕ} {status : PollStatus}
      (call : a = .oracle signatures oracleId (.setPollStatus pollId status)) :
      OracleChange w a oracleId s (s.recorded pollId ⟨status, w.now⟩)
  | cancelled {s : OracleStorage} {signatures : Signatures N} {pollId : ℕ} {admin : Address}
      (call : a = .market signatures (.cancelPoll admin pollId))
      (configured : w.market.votingOracle = some oracleId) :
      OracleChange w a oracleId s (s.recorded pollId ⟨.cancelled, w.now⟩)

theorem oracle_step {w w' : World N} {a : Action N} {reply : Reply PredictXError Value}
    (hstep : Step w a reply w') {oracleId : Address} {storage : OracleStorage}
    (h : w.oracles.lookup oracleId = some storage) :
    ∃ storage', w'.oracles.lookup oracleId = some storage' ∧
      OracleChange w a oracleId storage storage' := by
  have hinsert : ∀ {id : Address} {old new : OracleStorage}, w.oracles.lookup id = some old →
      (oracleId = id → OracleChange w a oracleId old new) →
      ∃ storage', (w.oracles.insert id new).lookup oracleId = some storage' ∧
        OracleChange w a oracleId storage storage' := by
    intro id old new hold hchange
    rw [lookup_insert_eq]
    split
    · rename_i heq
      subst heq
      cases hold.symm.trans h
      exact ⟨new, rfl, hchange rfl⟩
    · exact ⟨storage, h, .same⟩
  cases hstep with
  | initializeOracle deployed => exact hinsert deployed fun _ => .adopted
  | setPollStatus deployed =>
      refine hinsert deployed ?_
      rintro rfl
      exact .recorded rfl
  | deployOracle _ fresh =>
      refine ⟨storage, ?_, .same⟩
      rw [lookup_insert_eq, if_neg, h]
      rintro rfl
      rw [fresh] at h
      simp at h
  | market committed =>
      cases committed with
      | cancelPoll _ _ _ oracle_found deployed =>
          refine hinsert deployed ?_
          rintro rfl
          exact .cancelled rfl oracle_found
      | _ => exact ⟨storage, h, .same⟩
  | _ => exact ⟨storage, h, .same⟩

theorem votingOracle_step {w w' : World N} {a : Action N} {reply : Reply PredictXError Value}
    (hcons : Consistent N.market w.market) (hstep : Step w a reply w') :
    w'.market.votingOracle = w.market.votingOracle ∨
      ∃ oracleId value, w'.market.votingOracle = some oracleId ∧ w'.oracles = w.oracles ∧
        reply = .ok value ∧
        (w.market.votingOracle = none ∧
            (∃ signatures admin token treasury feeBps,
              a = .market signatures (.initializeMarket admin oracleId token treasury feeBps)) ∨
          ∃ signatures, a = .market signatures (.setOracle oracleId)) := by
  cases hstep with
  | market committed =>
      cases committed with
      | initializeMarket fresh =>
          exact .inr ⟨_, _, rfl, rfl, rfl,
            .inl ⟨hcons.oracle_configured.mpr fresh, _, _, _, _, _, rfl⟩⟩
      | setOracle => exact .inr ⟨_, _, rfl, rfl, rfl, .inr ⟨_, rfl⟩⟩
      | _ => exact .inl rfl
  | _ => exact .inl rfl

/-- A condition on the configured oracle is kept by a transaction if the
oracle's own changes keep it and a replacement meets it. -/
theorem configured_step {w w' : World N} {a : Action N} {reply : Reply PredictXError Value}
    {P Q : OracleStorage → Prop} (hcons : Consistent N.market w.market)
    (hstep : Step w a reply w') (h : Configured w P)
    (hchange : ∀ oracleId s s', w.market.votingOracle = some oracleId →
      OracleChange w a oracleId s s' → P s → Q s')
    (hreplaced : ∀ signatures oracleId value, a = .market signatures (.setOracle oracleId) →
      reply = .ok value → ∃ storage, w.oracles.lookup oracleId = some storage ∧ Q storage) :
    Configured w' Q := by
  obtain ⟨oracleId, storage, hfound, hstorage, hP⟩ := h
  rcases votingOracle_step hcons hstep with hsame | ⟨new, value, hnew, horacles, hok, hcall⟩
  · obtain ⟨storage', hstorage', hdone⟩ := oracle_step hstep hstorage
    exact ⟨oracleId, storage', hsame.trans hfound, hstorage', hchange _ _ _ hfound hdone hP⟩
  · rcases hcall with ⟨hnone, -⟩ | ⟨signatures, hcall⟩
    · rw [hfound] at hnone
      simp at hnone
    · obtain ⟨storage', hstorage', hQ⟩ := hreplaced signatures new value hcall hok
      exact ⟨new, storage', hnew, by rw [horacles, hstorage'], hQ⟩

section Staking

def LockPassed (w : World N) (pollId : ℕ) : Prop :=
  ∃ poll, w.market.polls.lookup pollId = some poll ∧ poll.lockTime ≤ w.now

theorem lockPassed_step {w w' : World N} {a : Action N} {reply : Reply PredictXError Value}
    (hcons : Consistent N.market w.market) (hstep : Step w a reply w') {pollId : ℕ}
    (h : LockPassed w pollId) : LockPassed w' pollId := by
  obtain ⟨poll, hpoll, hlocked⟩ := h
  obtain ⟨poll', hpoll', hgrown⟩ := poll_grows hcons hstep ⟨poll, hpoll, .refl poll⟩
  exact ⟨poll', hpoll', hgrown.lockTime_eq.le.trans (hlocked.trans hstep.now_le)⟩

def LockedWhereInactive (w : World N) (s : OracleStorage) : Prop :=
  ∀ pollId, s.pollStatusOf pollId ≠ .active → LockPassed w pollId

/-- The configured oracle moves a poll out of the active status only once its
lock time has passed, and an oracle is configured only if it did so. -/
def KeepsLifecycle (w : World N) : Action N → Prop
  | .market _ (.initializeMarket _ oracleId _ _ _) | .market _ (.setOracle oracleId) =>
      ∃ storage, w.oracles.lookup oracleId = some storage ∧ LockedWhereInactive w storage
  | .market _ (.cancelPoll _ pollId) => LockPassed w pollId
  | .oracle _ oracleId (.setPollStatus pollId status) =>
      w.market.votingOracle = some oracleId → status ≠ .active → LockPassed w pollId
  | _ => True

theorem lockedWhereInactive_change {w w' : World N} {a : Action N}
    {reply : Reply PredictXError Value} (hcons : Consistent N.market w.market)
    (hstep : Step w a reply w') (hkeeps : KeepsLifecycle w a) {oracleId : Address}
    {s s' : OracleStorage} (hfound : w.market.votingOracle = some oracleId)
    (hchange : OracleChange w a oracleId s s') (h : LockedWhereInactive w s) :
    LockedWhereInactive w' s' := by
  intro pollId hinactive
  apply lockPassed_step hcons hstep
  cases hchange with
  | same => exact h pollId hinactive
  | adopted => exact h pollId hinactive
  | recorded call =>
      subst call
      rw [pollStatusOf_recorded] at hinactive
      split at hinactive
      · rename_i heq
        rw [heq]
        exact hkeeps hfound hinactive
      · exact h pollId hinactive
  | cancelled call =>
      subst call
      rw [pollStatusOf_recorded] at hinactive
      split at hinactive
      · rename_i heq
        rw [heq]
        exact hkeeps
      · exact h pollId hinactive

theorem lifecycle_step {w w' : World N} {a : Action N} {reply : Reply PredictXError Value}
    (hcons : Consistent N.market w.market) (hstep : Step w a reply w')
    (hkeeps : (∃ value, reply = .ok value) → KeepsLifecycle w a)
    (h : w.market.votingOracle ≠ none → Configured w (LockedWhereInactive w)) :
    w'.market.votingOracle ≠ none → Configured w' (LockedWhereInactive w') := by
  intro hconfigured
  by_cases hok : ∃ value, reply = .ok value
  · have hkept := hkeeps hok
    by_cases hbefore : w.market.votingOracle = none
    · rcases votingOracle_step hcons hstep with hsame | ⟨new, _, hnew, horacles, -, hcall⟩
      · exact absurd (hsame.trans hbefore) hconfigured
      · obtain ⟨storage, hstorage, hlocked⟩ : ∃ storage, w.oracles.lookup new = some storage ∧
            LockedWhereInactive w storage := by
          rcases hcall with ⟨-, _, _, _, _, _, rfl⟩ | ⟨_, rfl⟩
          · exact hkept
          · exact hkept
        exact ⟨new, storage, hnew, by rw [horacles, hstorage],
          fun pollId hinactive => lockPassed_step hcons hstep (hlocked pollId hinactive)⟩
    · refine configured_step hcons hstep (h hbefore) ?_ ?_
      · intro oracleId s s' hfound hchange
        exact lockedWhereInactive_change hcons hstep hkept hfound hchange
      · rintro signatures oracleId value rfl -
        obtain ⟨storage, hstorage, hlocked⟩ := hkept
        exact ⟨storage, hstorage,
          fun pollId hinactive => lockPassed_step hcons hstep (hlocked pollId hinactive)⟩
  · rw [hstep.unchanged hok] at hconfigured ⊢
    exact h hconfigured

theorem lifecycle_run (x : Execution N)
    (hall : ∀ e ∈ x.history, (∃ value, e.output = .ok value) → KeepsLifecycle e.before e.input) :
    x.final.market.votingOracle ≠ none → Configured x.final (LockedWhereInactive x.final) := by
  have hstart : (genesis N x.start x.tokens).market.votingOracle ≠ none →
      Configured (genesis N x.start x.tokens)
        (LockedWhereInactive (genesis N x.start x.tokens)) := by
    simp [genesis, Market.deployed]
  exact (invariant_run (consistent_deployed _) hstart lifecycle_step hall).1

/-- Where every status other than active is given out after the lock time
only, a stake goes through only while the configured oracle reports the poll
as active. -/
theorem stake_needs_active (x : Execution N)
    (hall : ∀ e ∈ x.history, (∃ value, e.output = .ok value) → KeepsLifecycle e.before e.input)
    {signatures : Signatures N} {staker : Address} {pollId : ℕ} {amount : ℤ} {side : StakeSide}
    {value : Value}
    (hok : (step x.final (.market signatures (.stake staker pollId amount side))).1 =
      .ok value) :
    Configured x.final (fun s => s.pollStatusOf pollId = .active) := by
  have hcons := consistent_run x
  obtain ⟨_, hcommitted⟩ := committed_of_ok hok
  cases hcommitted with
  | @stake _ token _ _ _ poll _ _ _ _ _ poll_found _ poll_open _ token_found =>
      have hadmin : x.final.market.admin ≠ none := by
        rw [← hcons.configured.ne, token_found]
        simp
      have horacle := hcons.oracle_configured.not.mpr hadmin
      obtain ⟨oracleId, storage, hfound, hstorage, hlocked⟩ := lifecycle_run x hall horacle
      refine ⟨oracleId, storage, hfound, hstorage, ?_⟩
      by_contra hinactive
      obtain ⟨poll', hpoll', hpassed⟩ := hlocked pollId hinactive
      cases poll_found.symm.trans hpoll'
      exact absurd hpassed (not_le.mpr poll_open)

instance (w : World N) (pollId : ℕ) : Decidable (LockPassed w pollId) :=
  decidable_of_iff
    ((w.market.polls.lookup pollId).any fun poll => decide (poll.lockTime ≤ w.now)) (by
      simp [LockPassed, Option.any_eq_true])

/-- With a second poll still open, the first is locked and then cancelled at
its lock time. -/
def closings : List (Action sampleNetwork) :=
  [.market allSign (.createPoll ⟨5⟩ 1 "Penalty?" .other 5000), .elapse 900,
    .oracle allSign ⟨2⟩ (.setPollStatus 1 .locked), .market allSign (.cancelPoll ⟨1⟩ 1)]

theorem setup_keepsLifecycle : ∀ e ∈ (sampleRun []).history,
    (∃ value, e.output = .ok value) → KeepsLifecycle e.before e.input := by
  refine List.forall_mem_cons.mpr ⟨fun _ => trivial, ?_⟩
  refine List.forall_mem_cons.mpr ⟨fun _ => trivial, ?_⟩
  refine List.forall_mem_cons.mpr ⟨fun _ => ?_, ?_⟩
  · exact ⟨⟨some ⟨1⟩, ∅⟩, rfl, fun pollId hinactive => absurd rfl hinactive⟩
  refine List.forall_mem_cons.mpr ⟨fun _ => trivial, ?_⟩
  exact List.forall_mem_cons.mpr ⟨fun _ => trivial, List.forall_mem_nil _⟩

theorem closings_keepLifecycle : ∀ e ∈ trace step (sampleRun []).final closings,
    (∃ value, e.output = .ok value) → KeepsLifecycle e.before e.input := by
  refine List.forall_mem_cons.mpr ⟨fun _ => trivial, ?_⟩
  refine List.forall_mem_cons.mpr ⟨fun _ => trivial, ?_⟩
  refine List.forall_mem_cons.mpr ⟨fun _ _ _ => ?_, ?_⟩
  · decide +kernel
  refine List.forall_mem_cons.mpr ⟨fun _ => ?_, List.forall_mem_nil _⟩
  change LockPassed _ 1
  decide +kernel

theorem stake_needs_active_sample :
    Configured ((sampleRun []).andThen closings).final (fun s => s.pollStatusOf 2 = .active) ∧
      (((sampleRun []).andThen closings).final.oracles.lookup ⟨2⟩).map (·.pollStatusOf 1) =
        some .cancelled := by
  have hok : (step ((sampleRun []).andThen closings).final
      (.market allSign (.stake ⟨5⟩ 2 20000000 .yes))).1 =
        .ok (.stake ⟨⟨5⟩, 2, 20000000, .yes, false, 1000⟩) := by
    decide +kernel
  refine ⟨stake_needs_active ((sampleRun []).andThen closings) ?_ hok, by decide +kernel⟩
  rw [Execution.history_andThen]
  exact List.forall_mem_append.mpr ⟨setup_keepsLifecycle, closings_keepLifecycle⟩

def earlyCancelRun : Execution sampleNetwork :=
  sampleRun [.market allSign (.cancelPoll ⟨1⟩ 1)]

theorem earlyCancelRun_takes_stake :
    (∃ value, (step earlyCancelRun.final (.market allSign (.stake ⟨5⟩ 1 20000000 .yes))).1 =
        .ok value) ∧
      ¬ Configured earlyCancelRun.final (fun s => s.pollStatusOf 1 = .active) := by
  refine ⟨⟨.stake ⟨⟨5⟩, 1, 20000000, .yes, false, 100⟩, by decide +kernel⟩, ?_⟩
  rintro ⟨oracleId, storage, hfound, hstorage, hactive⟩
  have horacle : earlyCancelRun.final.market.votingOracle = some ⟨2⟩ := by decide +kernel
  have hcancelled : (earlyCancelRun.final.oracles.lookup ⟨2⟩).map (·.pollStatusOf 1) =
      some .cancelled := by
    decide +kernel
  cases horacle.symm.trans hfound
  rw [hstorage, Option.map_some, hactive] at hcancelled
  simp at hcancelled

end Staking

end PredictX.OracleLifecycle
