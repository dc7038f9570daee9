import PredictX.CrowdedMatches
import PredictX.MatchLifecycle

namespace PredictX.FinishedMatches

open PredictX.Bookkeeping
open PredictX.CommittedCalls
open PredictX.CrowdedMatches
open PredictX.FiniteStore
open PredictX.HostCall
open PredictX.Identifiers
open PredictX.LabelledRuns
open PredictX.MarketStorage
open PredictX.MatchLifecycle
open PredictX.PredictionMarket
open PredictX.SharedTypes
open PredictX.System
open PredictX.TokenContracts

variable {N : Network}

def Finished (w : World N) (matchId : ℕ) : Prop :=
  ∃ m, w.market.matchRecords.lookup matchId = some m ∧ m.isFinished = true

instance (w : World N) (matchId : ℕ) : Decidable (Finished w matchId) :=
  decidable_of_iff ((w.market.matchRecords.lookup matchId).map (·.isFinished) = some true)
    Option.map_eq_some_iff

def PollsLocked (w : World N) (matchId : ℕ) : Prop :=
  ∀ pollId poll, w.market.polls.lookup pollId = some poll → poll.matchId = matchId →
    poll.lockTime ≤ w.now

/-- The match has all the polls it can have, and none of them takes stakes. -/
def Shut (w : World N) (matchId : ℕ) : Prop := Full matchId w ∧ PollsLocked w matchId

/-- What the admin sees to before it finishes a match or lifts a pause. -/
def ClosesBetting (w : World N) : Action N → Prop
  | .market _ (.finishMatch _ matchId) => w.market.isPaused = true ∨ Shut w matchId
  | .market _ (.unpause _) => ∀ matchId, Finished w matchId → Shut w matchId
  | _ => True

def BetsOn (w : World N) (matchId : ℕ) : Action N → Prop
  | .market _ (.createPoll _ matchId' _ _ _) => matchId' = matchId
  | .market _ (.stake _ pollId _ _) =>
      ∃ poll, w.market.polls.lookup pollId = some poll ∧ poll.matchId = matchId
  | _ => False

theorem pollsLocked_iff {w : World N} {matchId : ℕ} : PollsLocked w matchId ↔
    ∀ pollId ∈ w.market.polls.keys, ∀ poll ∈ w.market.polls.lookup pollId,
      poll.matchId = matchId → poll.lockTime ≤ w.now := by
  constructor
  · exact fun h pollId _ poll hpoll => h pollId poll hpoll
  · exact fun h pollId poll hpoll => h pollId (mem_keys_of_lookup hpoll) poll hpoll

instance (w : World N) (matchId : ℕ) : Decidable (Shut w matchId) :=
  decidable_of_iff ((matchId ∈ w.market.matchRecords ∧
    maxPollsPerMatch ≤ (pollList w.market matchId).length) ∧ _)
    (and_congr_right' pollsLocked_iff.symm)

theorem finished_step {w w' : World N} {a : Action N} {reply : Reply PredictXError Value}
    (hstep : Step w a reply w') {matchId : ℕ} (h : Finished w' matchId) :
    Finished w matchId ∨
      ∃ signatures admin value, a = .market signatures (.finishMatch admin matchId) ∧
        reply = .ok value := by
  obtain ⟨m, hm, hfinished⟩ := h
  cases hstep with
  | market committed =>
      cases committed with
      | createMatch _ _ _ _ match_eq =>
          rw [matchRecords_matchAdded] at hm
          split at hm
          · -- A new match is not finished.
            cases hm
            rw [match_eq] at hfinished
            exact absurd hfinished Bool.false_ne_true
          · exact .inl ⟨m, hm, hfinished⟩
      | updateMatch _ _ match_found _ _ updated_eq =>
          rw [lookup_insert_eq] at hm
          split at hm
          · rename_i heq
            subst heq
            cases hm
            rw [updated_eq] at hfinished
            exact .inl ⟨_, match_found, hfinished⟩
          · exact .inl ⟨m, hm, hfinished⟩
      | finishMatch =>
          rw [lookup_insert_eq] at hm
          split at hm
          · rename_i heq
            subst heq
            exact .inr ⟨_, _, _, rfl, rfl⟩
          · exact .inl ⟨m, hm, hfinished⟩
      | _ => exact .inl ⟨m, hm, hfinished⟩
  | _ => exact .inl ⟨m, hm, hfinished⟩

theorem finishMatch_finished {w w' : World N} {signatures : Signatures N} {admin : Address}
    {matchId : ℕ} {value : Value}
    (hstep : Step w (.market signatures (.finishMatch admin matchId)) (.ok value) w') :
    Finished w' matchId := by
  cases hstep with
  | rejected failed => exact absurd rfl (failed value)
  | market committed =>
      cases committed with
      | finishMatch => exact ⟨_, Finmap.lookup_insert _, rfl⟩

theorem finished_kept {w w' : World N} {a : Action N} {reply : Reply PredictXError Value}
    (hcons : Consistent N.market w.market) (hstep : Step w a reply w') {matchId : ℕ}
    (h : Finished w matchId) : Finished w' matchId := by
  obtain ⟨m, hm, hfinished⟩ := h
  obtain ⟨m', hm', hchange⟩ := match_step hcons hstep hm
  exact ⟨m', hm', hchange.sameMatch.finished_kept hfinished⟩

theorem paused_step {w w' : World N} {a : Action N} {reply : Reply PredictXError Value}
    (hstep : Step w a reply w') (h : w.market.isPaused = true) :
    w'.market.isPaused = true ∨
      ∃ signatures admin value, a = .market signatures (.unpause admin) ∧ reply = .ok value := by
  cases hstep with
  | market committed =>
      cases committed with
      | pause => exact .inl rfl
      | unpause => exact .inr ⟨_, _, _, rfl, rfl⟩
      | _ => exact .inl h
  | _ => exact .inl h

theorem shut_step {w w' : World N} {a : Action N} {reply : Reply PredictXError Value}
    (hnumbered : Numbered w.market) (hstep : Step w a reply w') {matchId : ℕ}
    (h : Shut w matchId) : Shut w' matchId := by
  obtain ⟨⟨hmatch, hlong⟩, hlocked⟩ := h
  obtain ⟨hmatch', hprefix⟩ := pollList_step hnumbered hstep hmatch
  refine ⟨⟨hmatch', hlong.trans hprefix.length_le⟩, ?_⟩
  cases hstep with
  | elapse => exact fun pollId poll hpoll heq =>
      (hlocked pollId poll hpoll heq).trans (Nat.le_add_right _ _)
  | market committed =>
      cases committed with
      | createPoll _ _ _ _ room _ _ poll_eq =>
          intro pollId poll hpoll heq
          rw [polls_pollAdded] at hpoll
          split at hpoll
          · cases hpoll
            subst poll_eq
            cases heq
            exact absurd hlong (not_le.mpr room)
          · exact hlocked pollId poll hpoll heq
      | stake _ _ _ poll_found _ _ _ _ _ _ record_eq =>
          subst record_eq
          intro pollId poll hpoll heq
          rw [polls_staked] at hpoll
          split at hpoll
          · cases hpoll
            rw [matchId_credited] at heq
            rw [lockTime_credited]
            exact hlocked _ _ poll_found heq
          · exact hlocked pollId poll hpoll heq
      | _ => exact hlocked
  | _ => exact hlocked

/-- Every finished match is shut, or no bet is taken at all. -/
def Closed (w : World N) : Prop :=
  ∀ matchId, Finished w matchId → w.market.isPaused = true ∨ Shut w matchId

theorem closed_step {w w' : World N} {a : Action N} {reply : Reply PredictXError Value}
    (hnumbered : Numbered w.market) (hstep : Step w a reply w')
    (hcloses : (∃ value, reply = .ok value) → ClosesBetting w a) (h : Closed w) : Closed w' := by
  intro matchId hfinished
  rcases finished_step hstep hfinished with hbefore | ⟨_, _, value, rfl, rfl⟩
  · rcases h matchId hbefore with hpaused | hshut
    · rcases paused_step hstep hpaused with hstays | ⟨_, _, value, rfl, rfl⟩
      · exact .inl hstays
      · exact .inr (shut_step hnumbered hstep (hcloses ⟨value, rfl⟩ matchId hbefore))
    · exact .inr (shut_step hnumbered hstep hshut)
  · rcases hcloses ⟨value, rfl⟩ with hpaused | hshut
    · rcases paused_step hstep hpaused with hstays | ⟨_, _, _, hcall, -⟩
      · exact .inl hstays
      · cases hcall
    · exact .inr (shut_step hnumbered hstep hshut)

theorem bet_rejected {w w' : World N} {a : Action N} {reply : Reply PredictXError Value}
    (hstep : Step w a reply w') (h : Closed w) {matchId : ℕ} (hfinished : Finished w matchId)
    (hbets : BetsOn w matchId a) : ∀ value, reply ≠ .ok value := by
  have hclosed := h matchId hfinished
  cases hstep with
  | rejected failed => exact failed
  | market committed =>
      cases committed with
      | createPoll notPaused _ _ _ room =>
          subst hbets
          rcases hclosed with hpaused | ⟨hfull, -⟩
          · exact absurd (notPaused.symm.trans hpaused) Bool.false_ne_true
          · exact absurd hfull.2 (not_le.mpr room)
      | stake _ notPaused _ poll_found _ poll_open =>
          obtain ⟨poll, hpoll, hmatch⟩ := hbets
          cases poll_found.symm.trans hpoll
          rcases hclosed with hpaused | ⟨-, hlocked⟩
          · exact absurd (notPaused.symm.trans hpaused) Bool.false_ne_true
          · exact absurd (hlocked _ _ poll_found hmatch) (not_le.mpr poll_open)
      | _ => exact hbets.elim
  | _ => exact hbets.elim

theorem closed_run (x : Execution N)
    (hcloses : ∀ e ∈ x.history, (∃ value, e.output = .ok value) →
      ClosesBetting e.before e.input) : ∀ e ∈ x.history, Closed e.before := by
  have hstart : Numbered (genesis N x.start x.tokens).market ∧ Closed (genesis N x.start x.tokens) := by
    refine ⟨numbered_deployed, ?_⟩
    rintro matchId ⟨m, hm, -⟩
    cases hm
  have hkeep : ∀ {w w' : World N} {a reply}, Consistent N.market w.market → Step w a reply w' →
      ((∃ value, reply = .ok value) → ClosesBetting w a) → Numbered w.market ∧ Closed w →
        Numbered w'.market ∧ Closed w' := by
    rintro w w' a reply hcons hstep hmeets ⟨hnumbered, hclosed⟩
    exact ⟨numbered_step hcons hstep hnumbered, closed_step hnumbered hstep hmeets hclosed⟩
  intro e he
  exact ((invariant_run (consistent_deployed _) hstart hkeep hcloses).2 e he).1.2

/-- If matches are finished only while the market is paused or when they are
shut, and a pause is lifted only when every finished match is shut, then nothing
is created or staked on a match after it was finished. -/
theorem no_betting_after_finish (x : Execution N) {earlier later : List (Transaction N)}
    {e : Transaction N} {signatures : Signatures N} {admin : Address} {matchId : ℕ}
    {value : Value} (hsplit : x.history = earlier ++ e :: later)
    (hcall : e.input = .market signatures (.finishMatch admin matchId))
    (hok : e.output = .ok value)
    (hcloses : ∀ e' ∈ x.history, (∃ value, e'.output = .ok value) →
      ClosesBetting e'.before e'.input) :
    ∀ e' ∈ later, BetsOn e'.before matchId e'.input → ∀ value, e'.output ≠ .ok value := by
  have he : e ∈ x.history := by simp [hsplit]
  have hstep := Execution.step_of_mem he
  rw [hcall, hok] at hstep
  have hall : ∀ e' ∈ later, True := fun _ _ => trivial
  obtain ⟨-, hfinished⟩ := invariant_after hsplit (finishMatch_finished hstep)
    (fun hcons hstep _ => finished_kept hcons hstep) hall
  intro e' he'
  have hlater : e' ∈ x.history := by simp [hsplit, he']
  exact bet_rejected (Execution.step_of_mem hlater) (closed_run x hcloses e' hlater)
    (hfinished e' he')

section Sample

/-- With 50 polls on match 1, the market is paused. -/
def crowdedPausedRun : Execution sampleNetwork :=
  crowdedRun.andThen [.market allSign (.pause ⟨1⟩)]

/-- The match is finished, and the pause lifted once the polls are locked. -/
def orderlyFinish : List (Action sampleNetwork) :=
  [.market allSign (.finishMatch ⟨1⟩ 1), .elapse 1000, .market allSign (.unpause ⟨1⟩)]

def lateBets : List (Action sampleNetwork) :=
  [.market allSign (.createPoll ⟨6⟩ 1 "Late?" .teamEvent 5000),
    .market allSign (.stake ⟨5⟩ 1 20000000 .yes)]

theorem crowdedPausedRun_quiet : ∀ a ∈ crowdedPausedRun.actions, ∀ w, ClosesBetting w a := by
  intro a ha w
  rcases List.mem_append.mp ha with hbefore | hpause
  · rcases List.mem_append.mp hbefore with hsetup | hcrowd
    · simp only [sampleSetup, List.mem_cons, List.not_mem_nil, or_false] at hsetup
      rcases hsetup with rfl | rfl | rfl | rfl | rfl <;> trivial
    · cases List.eq_of_mem_replicate hcrowd
      trivial
  · cases List.mem_singleton.mp hpause
    trivial

theorem closesBetting_unpause {w : World N} {signatures : Signatures N} {admin : Address}
    {matchId : ℕ} (hkeys : w.market.matchRecords.keys = {matchId}) (hshut : Shut w matchId) :
    ClosesBetting w (.market signatures (.unpause admin)) := by
  rintro matchId' ⟨m, hm, -⟩
  have hmem := mem_keys_of_lookup hm
  rw [hkeys, Finset.mem_singleton] at hmem
  rw [hmem]
  exact hshut

theorem orderlyFinish_closes : ∀ bet ∈ lateBets,
    ∀ e ∈ trace step crowdedPausedRun.final (orderlyFinish ++ [bet]),
      ClosesBetting e.before e.input := by
  intro bet hbet
  have hpaused : crowdedPausedRun.final.market.isPaused = true := by decide +kernel
  have hkeys : (run step crowdedPausedRun.final
      [.market allSign (.finishMatch ⟨1⟩ 1), .elapse 1000]).market.matchRecords.keys = {1} := by
    decide +kernel
  have hshut : Shut (run step crowdedPausedRun.final
      [.market allSign (.finishMatch ⟨1⟩ 1), .elapse 1000]) 1 := by
    decide +kernel
  refine List.forall_mem_cons.mpr ⟨.inl hpaused, List.forall_mem_cons.mpr ⟨trivial, ?_⟩⟩
  refine List.forall_mem_cons.mpr ⟨closesBetting_unpause hkeys hshut, ?_⟩
  refine List.forall_mem_cons.mpr ⟨?_, List.forall_mem_nil _⟩
  simp only [lateBets, List.mem_cons, List.not_mem_nil, or_false] at hbet
  rcases hbet with rfl | rfl <;> trivial

theorem lateBets_bet : ∀ bet ∈ lateBets,
    BetsOn (run step crowdedPausedRun.final orderlyFinish) 1 bet := by
  have hpoll : ((run step crowdedPausedRun.final orderlyFinish).market.polls.lookup 1).map
      (·.matchId) = some 1 := by
    decide +kernel
  intro bet hbet
  simp only [lateBets, List.mem_cons, List.not_mem_nil, or_false] at hbet
  rcases hbet with rfl | rfl
  · rfl
  · exact Option.map_eq_some_iff.mp hpoll

theorem no_betting_after_finish_sample : lateBets.Forall fun bet => ∀ value,
    (step (run step crowdedPausedRun.final orderlyFinish) bet).1 ≠ .ok value := by
  refine List.forall_iff_forall_mem.mpr ?_
  intro bet hbet
  have hok : (step crowdedPausedRun.final (.market allSign (.finishMatch ⟨1⟩ 1))).1 =
      .ok .unit := by
    decide +kernel
  have hbets := lateBets_bet bet hbet
  have hsetup := crowdedPausedRun_quiet
  have hfinish := orderlyFinish_closes bet hbet
  generalize crowdedPausedRun = x at *
  refine no_betting_after_finish (x.andThen (orderlyFinish ++ [bet]))
    (Execution.history_andThen _ _) rfl hok ?_ _
    (entry_mem_trace [.elapse 1000, .market allSign (.unpause ⟨1⟩)] bet) hbets
  intro e he _
  rw [Execution.history_andThen] at he
  rcases List.mem_append.mp he with hbefore | hafter
  · exact hsetup e.input (Execution.input_of_mem hbefore) e.before
  · exact hfinish e hafter

end Sample

/-- The match is finished while its poll is open. -/
def earlyFinishRun : Execution sampleNetwork :=
  sampleRun [.market allSign (.finishMatch ⟨1⟩ 1)]

theorem earlyFinishRun_takes_bets :
    (step (sampleRun []).final (.market allSign (.finishMatch ⟨1⟩ 1))).1 = .ok .unit ∧
      (step earlyFinishRun.final
        (.market allSign (.createPoll ⟨6⟩ 1 "Late?" .teamEvent 5000))).1 = .ok (.id 2) ∧
      (step earlyFinishRun.final (.market allSign (.stake ⟨5⟩ 1 20000000 .yes))).1 =
        .ok (.stake ⟨⟨5⟩, 1, 20000000, .yes, false, 100⟩) := by
  decide +kernel

end PredictX.FinishedMatches
