import PredictX.Bookkeeping

namespace PredictX.Identifiers

open PredictX.Bookkeeping
open PredictX.CommittedCalls
open PredictX.FiniteStore
open PredictX.HostCall
open PredictX.HostCall.Call
open PredictX.LabelledRuns
open PredictX.MarketStorage
open PredictX.Matches
open PredictX.PredictionMarket
open PredictX.SharedTypes
open PredictX.System
open PredictX.TokenContracts

variable {N : Network}

/-- The ids of the polls on a match, as `get_match_polls` reads them. -/
def pollList (m : Market) (matchId : ℕ) : List ℕ := (m.matchPolls.lookup matchId).getD []

/-- Records are numbered from one up to a counter, and each match lists its
polls in the order they were created. -/
structure Numbered (m : Market) : Prop where
  match_ids : ∀ id, id ∈ m.matchRecords ↔ 1 ≤ id ∧ id < m.nextMatchId.getD 1
  poll_ids : ∀ id, id ∈ m.polls ↔ 1 ≤ id ∧ id < m.nextPollId.getD 1
  match_first : 1 ≤ m.nextMatchId.getD 1
  created : m.stats.totalPollsCreated + 1 = m.nextPollId.getD 1
  match_id : ∀ id m', m.matchRecords.lookup id = some m' → m'.matchId = id
  poll_id : ∀ id poll, m.polls.lookup id = some poll → poll.pollId = id
  poll_match : ∀ id poll, m.polls.lookup id = some poll → poll.matchId ∈ m.matchRecords
  listed : ∀ matchId pollId, pollId ∈ pollList m matchId ↔
    ∃ poll, m.polls.lookup pollId = some poll ∧ poll.matchId = matchId
  increasing : ∀ matchId, (pollList m matchId).Pairwise (· < ·)
  bounded : ∀ matchId, (pollList m matchId).length ≤ maxPollsPerMatch

theorem numbered_deployed : Numbered .deployed where
  match_ids := by
    intro id
    simp only [Market.deployed, Finmap.notMem_empty, Option.getD_none, false_iff]
    omega
  poll_ids := by
    intro id
    simp only [Market.deployed, Finmap.notMem_empty, Option.getD_none, false_iff]
    omega
  match_first := le_rfl
  created := rfl
  match_id := by simp [Market.deployed]
  poll_id := by simp [Market.deployed]
  poll_match := by simp [Market.deployed]
  listed := by simp [pollList, Market.deployed]
  increasing := by simp [pollList, Market.deployed]
  bounded := by simp [pollList, Market.deployed]

section Operations

variable {m : Market}

theorem pollList_pollAdded (poll : Poll) (matchId : ℕ) :
    pollList (pollAddedMarket m poll) matchId =
      if matchId = poll.matchId then pollList m poll.matchId ++ [poll.pollId]
      else pollList m matchId := by
  simp only [pollList, pollAddedMarket, lookup_insert_eq]
  split <;> rfl

theorem pollList_matchAdded (newMatch : Match) (matchId : ℕ) :
    pollList (matchAddedMarket m newMatch) matchId =
      if matchId = newMatch.matchId then [] else pollList m matchId := by
  simp only [pollList, matchAddedMarket, lookup_insert_eq]
  split <;> rfl

theorem Numbered.poll_below (h : Numbered m) {matchId pollId : ℕ}
    (hlisted : pollId ∈ pollList m matchId) : pollId < m.nextPollId.getD 1 := by
  obtain ⟨poll, hpoll, -⟩ := (h.listed matchId pollId).mp hlisted
  exact ((h.poll_ids pollId).mp (Finmap.mem_of_lookup_eq_some hpoll)).2

theorem Numbered.match_fresh (h : Numbered m) : m.nextMatchId.getD 1 ∉ m.matchRecords := by
  rw [h.match_ids]
  exact fun hstored => absurd hstored.2 (lt_irrefl _)

theorem Numbered.poll_fresh (h : Numbered m) : m.nextPollId.getD 1 ∉ m.polls := by
  rw [h.poll_ids]
  exact fun hstored => absurd hstored.2 (lt_irrefl _)

theorem Numbered.pollList_fresh (h : Numbered m) {matchId : ℕ} (fresh : matchId ∉ m.matchRecords) :
    pollList m matchId = [] := by
  rw [List.eq_nil_iff_forall_not_mem]
  intro pollId hlisted
  obtain ⟨poll, hpoll, rfl⟩ := (h.listed _ _).mp hlisted
  exact fresh (h.poll_match pollId poll hpoll)

theorem Numbered.pollList_created (h : Numbered m) {newMatch : Match}
    (matchId_eq : newMatch.matchId = m.nextMatchId.getD 1) (matchId : ℕ) :
    pollList (matchAddedMarket m newMatch) matchId = pollList m matchId := by
  rw [pollList_matchAdded]
  split
  · rename_i heq
    rw [heq, h.pollList_fresh]
    rw [matchId_eq]
    exact h.match_fresh
  · rfl

/-- The counters are at their first value as long as nothing is stored, so
writing that value changes nothing. -/
theorem Numbered.configured (h : Numbered m) (hmatches : m.matchRecords = ∅)
    (hpolls : m.polls = ∅) : m.nextMatchId.getD 1 = 1 ∧ m.nextPollId.getD 1 = 1 := by
  have hmatch := (h.match_ids (m.nextMatchId.getD 1 - 1)).not
  have hpoll := (h.poll_ids (m.nextPollId.getD 1 - 1)).not
  have hfirst := h.match_first
  have hcreated := h.created
  rw [hmatches] at hmatch
  rw [hpolls] at hpoll
  have hnoMatch := hmatch.mp Finmap.notMem_empty
  have hnoPoll := hpoll.mp Finmap.notMem_empty
  constructor
  · omega
  · omega

theorem Numbered.listed_pollAdded (h : Numbered m) {poll : Poll}
    (pollId_eq : poll.pollId = m.nextPollId.getD 1) (matchId pollId : ℕ) :
    pollId ∈ pollList (pollAddedMarket m poll) matchId ↔
      ∃ poll', (pollAddedMarket m poll).polls.lookup pollId = some poll' ∧
        poll'.matchId = matchId := by
  rw [pollList_pollAdded]
  simp only [polls_pollAdded]
  by_cases hpoll : pollId = poll.pollId
  · have hnot : ∀ matchId, pollId ∉ pollList m matchId := by
      intro matchId hlisted
      have hbelow := h.poll_below hlisted
      omega
    subst hpoll
    split
    · rename_i hmatch
      simp [hmatch]
    · rename_i hmatch
      simp [hnot matchId, Ne.symm hmatch]
  · split
    · rename_i hmatch
      subst hmatch
      simp [hpoll, h.listed]
    · simp [h.listed]

theorem Numbered.pollAdded (h : Numbered m) {poll : Poll}
    (match_found : poll.matchId ∈ m.matchRecords)
    (pollId_eq : poll.pollId = m.nextPollId.getD 1)
    (room : (pollList m poll.matchId).length < maxPollsPerMatch) :
    Numbered (pollAddedMarket m poll) := by
  have hcreated := h.created
  refine { h with
    poll_ids := ?_, created := ?_, poll_id := ?_, poll_match := ?_
    listed := h.listed_pollAdded pollId_eq, increasing := ?_, bounded := ?_ }
  · intro id
    change id ∈ m.polls.insert poll.pollId poll ↔ 1 ≤ id ∧ id < poll.pollId + 1
    rw [Finmap.mem_insert, h.poll_ids]
    omega
  · change m.stats.totalPollsCreated + 1 + 1 = poll.pollId + 1
    omega
  · intro id poll' hpoll
    rw [polls_pollAdded] at hpoll
    split at hpoll
    · rename_i heq
      cases hpoll
      exact heq.symm
    · exact h.poll_id id poll' hpoll
  · intro id poll' hpoll
    rw [polls_pollAdded] at hpoll
    split at hpoll
    · cases hpoll
      exact match_found
    · exact h.poll_match id poll' hpoll
  · intro matchId
    rw [pollList_pollAdded]
    split
    · refine List.pairwise_append.mpr ⟨h.increasing _, List.pairwise_singleton _ _, ?_⟩
      intro p hp q hq
      rw [List.mem_singleton.mp hq, pollId_eq]
      exact h.poll_below hp
    · exact h.increasing matchId
  · intro matchId
    rw [pollList_pollAdded]
    split
    · rw [List.length_append]
      exact room
    · exact h.bounded matchId

theorem Numbered.matchAdded (h : Numbered m) {newMatch : Match}
    (matchId_eq : newMatch.matchId = m.nextMatchId.getD 1) :
    Numbered (matchAddedMarket m newMatch) := by
  have hfirst := h.match_first
  have hlists := h.pollList_created matchId_eq
  refine { h with
    match_ids := ?_, match_first := ?_, match_id := ?_, poll_match := ?_, listed := ?_
    increasing := ?_, bounded := ?_ }
  · intro id
    change id ∈ m.matchRecords.insert newMatch.matchId newMatch ↔
      1 ≤ id ∧ id < newMatch.matchId + 1
    rw [Finmap.mem_insert, h.match_ids]
    omega
  · exact Nat.le_add_left _ _
  · intro id m' hlookup
    rw [matchRecords_matchAdded] at hlookup
    split at hlookup
    · rename_i heq
      cases hlookup
      exact heq.symm
    · exact h.match_id id m' hlookup
  · intro id poll hpoll
    exact Finmap.mem_insert.mpr (.inr (h.poll_match id poll hpoll))
  · intro matchId pollId
    rw [hlists]
    exact h.listed matchId pollId
  · intro matchId
    rw [hlists]
    exact h.increasing matchId
  · intro matchId
    rw [hlists]
    exact h.bounded matchId

theorem Numbered.staked (h : Numbered m) {poll : Poll} {record : Stake}
    (poll_found : m.polls.lookup record.pollId = some poll) :
    Numbered (stakedMarket m poll record) := by
  have hkept : ∀ id poll', (stakedMarket m poll record).polls.lookup id = some poll' →
      ∃ old, m.polls.lookup id = some old ∧ poll'.pollId = old.pollId ∧
        poll'.matchId = old.matchId := by
    intro id poll' hpoll
    rw [polls_staked] at hpoll
    split at hpoll
    · rename_i heq
      subst heq
      cases hpoll
      exact ⟨poll, poll_found, pollId_credited _ _ _, matchId_credited _ _ _⟩
    · exact ⟨poll', hpoll, rfl, rfl⟩
  refine { h with poll_ids := ?_, poll_id := ?_, poll_match := ?_, listed := ?_ }
  · intro id
    exact (mem_insert_of_lookup poll_found _ id).trans (h.poll_ids id)
  · intro id poll' hpoll
    obtain ⟨old, hold, hid, -⟩ := hkept id poll' hpoll
    rw [hid]
    exact h.poll_id id old hold
  · intro id poll' hpoll
    obtain ⟨old, hold, -, hmatch⟩ := hkept id poll' hpoll
    rw [hmatch]
    exact h.poll_match id old hold
  · intro matchId pollId
    change pollId ∈ pollList m matchId ↔ _
    rw [h.listed, polls_staked]
    split
    · rename_i heq
      subst heq
      simp [poll_found]
    · rfl

theorem Numbered.matchRevised (h : Numbered m) {matchId : ℕ} {old new : Match}
    (match_found : m.matchRecords.lookup matchId = some old)
    (matchId_eq : new.matchId = old.matchId) :
    Numbered { m with matchRecords := m.matchRecords.insert matchId new } := by
  have hkeys := mem_insert_of_lookup match_found new
  refine { h with match_ids := ?_, match_id := ?_, poll_match := ?_ }
  · intro id
    exact (hkeys id).trans (h.match_ids id)
  · intro id m' hlookup
    rw [lookup_insert_eq] at hlookup
    split at hlookup
    · rename_i heq
      cases hlookup
      rw [matchId_eq, heq]
      exact h.match_id matchId old match_found
    · exact h.match_id id m' hlookup
  · intro id poll hpoll
    exact (hkeys _).mpr (h.poll_match id poll hpoll)

end Operations

theorem numbered_step {w w' : World N} {a : Action N} {reply : Reply PredictXError Value}
    (hcons : Consistent N.market w.market) (hstep : Step w a reply w') (h : Numbered w.market) :
    Numbered w'.market := by
  cases hstep with
  | market committed =>
      cases committed with
      | initializeMarket fresh =>
          -- Both counters are written back to one, which they still are.
          obtain ⟨hmatches, hpolls⟩ := hcons.unconfigured fresh
          obtain ⟨hmatchCount, hpollCount⟩ := h.configured hmatches hpolls
          have hmatchIds := h.match_ids
          have hpollIds := h.poll_ids
          have hcreated := h.created
          rw [hmatchCount] at hmatchIds
          rw [hpollCount] at hpollIds hcreated
          exact { h with
            match_ids := hmatchIds, poll_ids := hpollIds, match_first := le_rfl
            created := hcreated }
      | @createPoll _ _ _ _ _ _ poll _ _ match_found _ room _ _ poll_eq =>
          subst poll_eq
          exact h.pollAdded (Finmap.mem_of_lookup_eq_some match_found) rfl room
      | createMatch _ _ _ _ match_eq =>
          subst match_eq
          exact h.matchAdded rfl
      | updateMatch _ _ match_found _ _ updated_eq =>
          subst updated_eq
          exact h.matchRevised match_found rfl
      | finishMatch _ _ match_found => exact h.matchRevised match_found rfl
      | stake _ _ _ poll_found _ _ _ _ _ _ record_eq =>
          subst record_eq
          exact h.staked poll_found
      | emergencyWithdraw => exact { h with }
      | _ => exact { h with }
  | _ => exact h

theorem numbered_run (x : Execution N) : Numbered x.final.market :=
  invariant_final (P := fun w : World N => Numbered w.market) x numbered_deployed numbered_step

/-- The call asks for a new match or a new poll. -/
def Creates : MarketOp → Prop
  | .createMatch .. | .createPoll .. => True
  | _ => False

/-- Every record of the market is still there as it was, and every list with at
least the polls it had. -/
structure Kept (m m' : Market) : Prop where
  matchRecords : ∀ id stored, m.matchRecords.lookup id = some stored →
    m'.matchRecords.lookup id = some stored
  polls : ∀ id poll, m.polls.lookup id = some poll → m'.polls.lookup id = some poll
  lists : ∀ matchId, pollList m matchId <+: pollList m' matchId

theorem Kept.refl (m : Market) : Kept m m :=
  ⟨fun _ _ hstored => hstored, fun _ _ hpoll => hpoll, fun _ => List.prefix_rfl⟩

theorem created_kept {w w' : World N} {signatures : Signatures N} {op : MarketOp}
    {reply : Reply PredictXError Value} (h : Numbered w.market)
    (hstep : Step w (.market signatures op) reply w') (hcreates : Creates op) :
    Kept w.market w'.market := by
  cases hstep with
  | rejected => exact .refl _
  | market committed =>
      cases committed with
      | createPoll _ _ _ _ _ _ _ poll_eq =>
          subst poll_eq
          refine { Kept.refl w.market with polls := ?_, lists := ?_ }
          · intro id poll hpoll
            rw [polls_pollAdded, if_neg, hpoll]
            rintro rfl
            exact h.poll_fresh (Finmap.mem_of_lookup_eq_some hpoll)
          · intro matchId
            rw [pollList_pollAdded]
            split
            · rename_i heq
              rw [heq]
              exact List.prefix_append _ _
            · exact List.prefix_rfl
      | createMatch _ _ _ _ match_eq =>
          subst match_eq
          refine { Kept.refl w.market with matchRecords := ?_, lists := ?_ }
          · intro id stored hstored
            rw [matchRecords_matchAdded, if_neg, hstored]
            rintro rfl
            exact h.match_fresh (Finmap.mem_of_lookup_eq_some hstored)
          · intro matchId
            rw [h.pollList_created rfl]
      | _ => exact hcreates.elim

theorem query_getMatchCount (w : World N) :
    query w getMatchCount = .ok (w.market.nextMatchId.getD 1 - 1) :=
  query_eq_ok.mpr ⟨w, load_returns.mpr ⟨rfl, rfl⟩⟩

theorem query_getMatchPolls {w : World N} {matchId : ℕ} {ids : List ℕ} :
    query w (getMatchPolls matchId) = .ok ids ↔
      matchId ∈ w.market.matchRecords ∧ ids = pollList w.market matchId := by
  simp [query_eq_ok, getMatchPolls, bind_returns, load_returns, failIf_returns, pollList]

/-- Matches and polls are numbered without gaps, each record under its own id;
every poll is on the list of one stored match, which is increasing and not too
long; and a creation takes a new id and overwrites nothing. -/
theorem identifiers (x : Execution N) :
    (∃ count, query x.final getMatchCount = .ok count ∧
        ∀ id, id ∈ x.final.market.matchRecords ↔ 1 ≤ id ∧ id ≤ count) ∧
      (∀ id, id ∈ x.final.market.polls ↔
        1 ≤ id ∧ id ≤ x.final.market.stats.totalPollsCreated) ∧
      x.final.market.nextPollId.getD 1 = x.final.market.stats.totalPollsCreated + 1 ∧
      (∀ id m, x.final.market.matchRecords.lookup id = some m → m.matchId = id) ∧
      (∀ id poll, x.final.market.polls.lookup id = some poll →
        poll.pollId = id ∧ poll.matchId ∈ x.final.market.matchRecords) ∧
      (∀ matchId ∈ x.final.market.matchRecords, ∃ ids,
        query x.final (getMatchPolls matchId) = .ok ids ∧ ids.Pairwise (· < ·) ∧
          ids.length ≤ maxPollsPerMatch ∧
          ∀ id, id ∈ ids ↔
            ∃ poll, x.final.market.polls.lookup id = some poll ∧ poll.matchId = matchId) ∧
      (∀ id ∈ x.final.market.polls, ∃! matchId, ∃ ids,
        query x.final (getMatchPolls matchId) = .ok ids ∧ id ∈ ids) ∧
      (∀ signatures admin homeTeam awayTeam league venue kickoffTime id,
        (step x.final (.market signatures
            (.createMatch admin homeTeam awayTeam league venue kickoffTime))).1 = .ok (.id id) →
          id ∉ x.final.market.matchRecords) ∧
      (∀ signatures creator matchId question category lockTime id,
        (step x.final (.market signatures
            (.createPoll creator matchId question category lockTime))).1 = .ok (.id id) →
          id ∉ x.final.market.polls) ∧
      ∀ signatures op, Creates op →
        Kept x.final.market (step x.final (.market signatures op)).2.market := by
  have h := numbered_run x
  have hfirst := h.match_first
  have hcreated := h.created
  refine ⟨⟨_, query_getMatchCount _, ?_⟩, ?_, hcreated.symm, h.match_id, ?_, ?_, ?_, ?_, ?_, ?_⟩
  · intro id
    rw [h.match_ids]
    omega
  · intro id
    rw [h.poll_ids]
    omega
  · intro id poll hpoll
    exact ⟨h.poll_id id poll hpoll, h.poll_match id poll hpoll⟩
  · intro matchId hmatch
    exact ⟨_, query_getMatchPolls.mpr ⟨hmatch, rfl⟩, h.increasing matchId, h.bounded matchId,
      h.listed matchId⟩
  · intro id hid
    obtain ⟨poll, hpoll⟩ := Finmap.mem_iff.mp hid
    refine ⟨poll.matchId, ⟨_, query_getMatchPolls.mpr ⟨h.poll_match id poll hpoll, rfl⟩,
      (h.listed _ id).mpr ⟨poll, hpoll, rfl⟩⟩, ?_⟩
    rintro matchId ⟨ids, hids, hlisted⟩
    obtain ⟨-, rfl⟩ := query_getMatchPolls.mp hids
    obtain ⟨poll', hpoll', rfl⟩ := (h.listed matchId id).mp hlisted
    cases hpoll.symm.trans hpoll'
    rfl
  · intro signatures admin homeTeam awayTeam league venue kickoffTime id hok
    obtain ⟨_, hcommitted⟩ := committed_of_ok hok
    cases hcommitted with
    | createMatch _ _ _ _ match_eq =>
        subst match_eq
        exact h.match_fresh
  · intro signatures creator matchId question category lockTime id hok
    obtain ⟨_, hcommitted⟩ := committed_of_ok hok
    cases hcommitted with
    | createPoll _ _ _ _ _ _ _ poll_eq =>
        subst poll_eq
        exact h.poll_fresh
  · intro signatures op hcreates
    exact created_kept h (step_cases _ _) hcreates

end PredictX.Identifiers
