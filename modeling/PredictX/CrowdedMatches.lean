import PredictX.Verdicts

namespace PredictX.CrowdedMatches

open PredictX.Bookkeeping
open PredictX.CommittedCalls
open PredictX.HostCall
open PredictX.Identifiers
open PredictX.LabelledRuns
open PredictX.MarketStorage
open PredictX.OrderedChecks
open PredictX.PredictionMarket
open PredictX.Settlement
open PredictX.SharedTypes
open PredictX.System
open PredictX.TokenContracts
open PredictX.Verdicts

variable {N : Network}

theorem pollList_step {w w' : World N} {a : Action N} {reply : Reply PredictXError Value}
    (hnumbered : Numbered w.market) (hstep : Step w a reply w') {matchId : ℕ}
    (hmatch : matchId ∈ w.market.matchRecords) :
    matchId ∈ w'.market.matchRecords ∧
      pollList w.market matchId <+: pollList w'.market matchId := by
  cases hstep with
  | market committed =>
      cases committed with
      | createPoll _ _ _ _ _ _ _ poll_eq =>
          subst poll_eq
          refine ⟨hmatch, ?_⟩
          rw [pollList_pollAdded]
          split
          · rename_i heq
            rw [heq]
            exact List.prefix_append _ _
          · exact List.prefix_rfl
      | createMatch _ _ _ _ match_eq =>
          subst match_eq
          refine ⟨Finmap.mem_insert.mpr (.inr hmatch), ?_⟩
          rw [pollList_matchAdded, if_neg]
          rintro rfl
          exact hnumbered.match_fresh hmatch
      | updateMatch | finishMatch =>
          exact ⟨Finmap.mem_insert.mpr (.inr hmatch), List.prefix_rfl⟩
      | _ => exact ⟨hmatch, List.prefix_rfl⟩
  | _ => exact ⟨hmatch, List.prefix_rfl⟩

/-- A match whose list is full. -/
def Full (matchId : ℕ) (w : World N) : Prop :=
  matchId ∈ w.market.matchRecords ∧ maxPollsPerMatch ≤ (pollList w.market matchId).length

theorem full_later {x : Execution N} {matchId : ℕ} (h : Full matchId x.final)
    (later : List (Action N)) : Full matchId (x.andThen later).final := by
  refine (invariant_later (P := fun w : World N => Numbered w.market ∧ Full matchId w) x
    ⟨numbered_run x, h⟩ ?_ later).2
  rintro w a reply w' hcons hstep ⟨hnumbered, hmatch, hlong⟩
  obtain ⟨hmatch', hprefix⟩ := pollList_step hnumbered hstep hmatch
  exact ⟨numbered_step hcons hstep hnumbered, hmatch', hlong.trans hprefix.length_le⟩

theorem Full.refuses {w : World N} {matchId : ℕ} (h : Full matchId w)
    (signatures : Signatures N) (creator : Address) (question : String) (category : PollCategory)
    (lockTime : ℕ) (value : Value) :
    (step w (.market signatures (.createPoll creator matchId question category lockTime))).1 ≠
      .ok value := by
  intro hok
  obtain ⟨_, hcommitted⟩ := committed_of_ok hok
  cases hcommitted with
  | createPoll _ _ _ _ room => exact absurd room (not_lt.mpr h.2)

section Filling

variable {signatures : Signatures N} {creator : Address} {matchId lockTime : ℕ}

theorem createPoll_accepted {w : World N} (hcons : Consistent N.market w.market)
    (hnumbered : Numbered w.market) (hopen : Unsettled w.market)
    (signed : signatures.accepts N.market creator = true)
    (unpaused : w.market.isPaused = false) (hmatch : matchId ∈ w.market.matchRecords)
    (lock_later : w.now < lockTime) (id_fits : w.market.nextPollId.getD 1 + 1 < 2 ^ 64)
    (hroom : (pollList w.market matchId).length < maxPollsPerMatch) (question : String)
    (category : PollCategory) :
    ∃ poll w',
      step w (.market signatures (.createPoll creator matchId question category lockTime)) =
        (.ok (.id (w.market.nextPollId.getD 1)), w') ∧
      poll.pollId = w.market.nextPollId.getD 1 ∧ poll.matchId = matchId ∧
      w'.market = pollAddedMarket w.market poll ∧ w'.now = w.now := by
  obtain ⟨m, hm⟩ := Finmap.mem_iff.mp hmatch
  have hpass : ∀ c ∈ checks signatures w (.createPoll creator matchId question category lockTime),
      c.fails = false := by
    simp [checks, notPaused, Check.fails, lacks, expired, unpaused, signed, hm, lock_later]
    exact ⟨hroom, by omega⟩
  obtain ⟨value, w', hvalue, hstep⟩ : ∃ value w', value = .id (w.market.nextPollId.getD 1) ∧
      step w (.market signatures (.createPoll creator matchId question category lockTime)) =
        (.ok value, w') := by
    refine ⟨_, _, rfl, Prod.ext ?_ rfl⟩
    rw [step_verdict hcons hnumbered hopen]
    exact verdict_eq_ok.mpr ⟨rfl, hpass⟩
  rw [← hvalue]
  cases committed_of_returns (step_market.mp hstep) with
  | createPoll _ _ _ _ _ _ _ poll_eq =>
      refine ⟨_, _, hstep, ?_, ?_, rfl, rfl⟩
      · rw [poll_eq]
      · rw [poll_eq]

theorem polls_fill (signed : signatures.accepts N.market creator = true) (question : String)
    (category : PollCategory) (n : ℕ) {w : World N} (hcons : Consistent N.market w.market)
    (hnumbered : Numbered w.market) (hopen : Unsettled w.market)
    (unpaused : w.market.isPaused = false) (hmatch : matchId ∈ w.market.matchRecords)
    (lock_later : w.now < lockTime) (ids_fit : w.market.nextPollId.getD 1 + n < 2 ^ 64)
    (hroom : (pollList w.market matchId).length + n ≤ maxPollsPerMatch) {calls : List (Action N)}
    (hcalls : calls = List.replicate n
      (.market signatures (.createPoll creator matchId question category lockTime))) :
    (trace step w calls).map (·.output) =
        (List.range' (w.market.nextPollId.getD 1) n).map (fun id => .ok (.id id)) ∧
      matchId ∈ (run step w calls).market.matchRecords ∧
      (pollList (run step w calls).market matchId).length =
        (pollList w.market matchId).length + n := by
  induction n generalizing w calls with
  | zero =>
      subst hcalls
      exact ⟨rfl, hmatch, rfl⟩
  | succ n ih =>
      obtain ⟨poll, w', hstep, hpollId, hmatchId, hmarket, hnow⟩ := createPoll_accepted hcons
        hnumbered hopen signed unpaused hmatch lock_later (by omega) (by omega) question category
      have hdone : Step w _ _ w' := hstep ▸ step_cases w
        (.market signatures (.createPoll creator matchId question category lockTime))
      have hlist : pollList w'.market matchId = pollList w.market matchId ++ [poll.pollId] := by
        rw [hmarket, pollList_pollAdded, if_pos hmatchId.symm, hmatchId]
      have hnext : w'.market.nextPollId.getD 1 = w.market.nextPollId.getD 1 + 1 := by
        rw [hmarket, ← hpollId]
        rfl
      obtain ⟨houtputs, hstored, hlength⟩ := ih (consistent_step hcons hdone)
        (numbered_step hcons hdone hnumbered) (unsettled_step hdone hopen)
        (by rw [hmarket]; exact unpaused) (pollList_step hnumbered hdone hmatch).1
        (by rw [hnow]; exact lock_later) (by omega) (by simp [hlist]; omega) rfl
      rw [hcalls, List.replicate_succ]
      rw [outputs_cons hstep, houtputs, List.range'_succ, hnext, run_cons hstep]
      refine ⟨rfl, hstored, ?_⟩
      rw [hlength, hlist, List.length_append, List.length_singleton]
      omega

/-- One signer can fill the list of a match; whatever happens afterwards, no
call of anybody adds a poll to that match again. -/
theorem crowding (x : Execution N) (signed : signatures.accepts N.market creator = true)
    (unpaused : x.final.market.isPaused = false) (hmatch : matchId ∈ x.final.market.matchRecords)
    (lock_later : x.final.now < lockTime)
    (ids_fit : x.final.market.nextPollId.getD 1 + maxPollsPerMatch < 2 ^ 64) (question : String)
    (category : PollCategory) {calls : List (Action N)}
    (hcalls : calls = List.replicate (maxPollsPerMatch - (pollList x.final.market matchId).length)
      (.market signatures (.createPoll creator matchId question category lockTime))) :
    (∀ e ∈ trace step x.final calls, ∃ value, e.output = .ok value) ∧
      ∀ later signatures' creator' question' category' lockTime' value,
        (step (x.andThen (calls ++ later)).final (.market signatures'
          (.createPoll creator' matchId question' category' lockTime'))).1 ≠ .ok value := by
  have hbounded := (numbered_run x).bounded matchId
  obtain ⟨houtputs, hstored, hlength⟩ := polls_fill signed question category
    (maxPollsPerMatch - (pollList x.final.market matchId).length) (consistent_run x)
    (numbered_run x) (unsettled_run x) unpaused hmatch lock_later (by omega) (by omega) hcalls
  constructor
  · intro e he
    have hmem := List.mem_map_of_mem (f := (·.output)) he
    rw [houtputs] at hmem
    obtain ⟨id, -, hid⟩ := List.mem_map.mp hmem
    exact ⟨_, hid.symm⟩
  · intro later
    have hfull : Full matchId (x.andThen calls).final := by
      rw [Execution.final_andThen]
      exact ⟨hstored, by omega⟩
    have hassoc : x.andThen (calls ++ later) = (x.andThen calls).andThen later := by
      simp [Execution.andThen]
    rw [hassoc]
    exact (full_later hfull later).refuses

end Filling

def crowd : List (Action sampleNetwork) :=
  List.replicate 49 (.market allSign (.createPoll ⟨5⟩ 1 "Penalty?" .other 1000))

def crowdedRun : Execution sampleNetwork := sampleRun crowd

theorem crowding_sample :
    (∀ e ∈ trace step (sampleRun []).final crowd, ∃ value, e.output = .ok value) ∧
      ∀ later value, (step ((sampleRun []).andThen (crowd ++ later)).final
        (.market allSign (.createPoll ⟨6⟩ 1 "Corner?" .other 900))).1 ≠ .ok value := by
  have hlist : (pollList (sampleRun []).final.market 1).length = 1 := by decide +kernel
  have signed : allSign.accepts sampleNetwork.market ⟨5⟩ = true := rfl
  have lock_later : (sampleRun []).final.now < 1000 := by decide +kernel
  have hcalls : crowd = List.replicate
      (maxPollsPerMatch - (pollList (sampleRun []).final.market 1).length)
      (.market allSign (.createPoll ⟨5⟩ 1 "Penalty?" .other 1000)) := by
    rw [hlist]
    rfl
  obtain ⟨haccepted, hfull⟩ := crowding (sampleRun []) signed (by decide +kernel)
    (by decide +kernel) lock_later (by decide +kernel) "Penalty?" .other hcalls
  exact ⟨haccepted, fun later => hfull later allSign ⟨6⟩ "Corner?" .other 900⟩

end PredictX.CrowdedMatches
