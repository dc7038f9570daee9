import PredictX.Bookkeeping

namespace PredictX.MatchLifecycle

open PredictX.Bookkeeping
open PredictX.CommittedCalls
open PredictX.FiniteStore
open PredictX.HostCall
open PredictX.LabelledRuns
open PredictX.MarketStorage
open PredictX.PredictionMarket
open PredictX.SharedTypes
open PredictX.System
open PredictX.TokenContracts

variable {N : Network}

/-- `MatchChange now m m'`: a transaction at the time `now` that meets the match
`m` may leave `m'`. -/
inductive MatchChange (now : ℕ) (m : Match) : Match → Prop where
  | same : MatchChange now m m
  | revised {homeTeam awayTeam league venue : Option String} {kickoffTime : Option ℕ}
      (not_started : now < m.kickoffTime) (kickoff_later : ∀ kt ∈ kickoffTime, now < kt) :
      MatchChange now m (revised m homeTeam awayTeam league venue kickoffTime)
  | finished : MatchChange now m { m with isFinished := true }

theorem match_step {w w' : World N} {a : Action N} {reply : Reply PredictXError Value}
    (hcons : Consistent N.market w.market) (hstep : Step w a reply w') {matchId : ℕ} {m : Match}
    (h : w.market.matchRecords.lookup matchId = some m) :
    ∃ m', w'.market.matchRecords.lookup matchId = some m' ∧ MatchChange w.now m m' := by
  cases hstep with
  | market committed =>
      cases committed with
      | createMatch _ _ _ _ match_eq =>
          -- The new match is stored under another id: stored ids lie below the counter.
          subst match_eq
          refine ⟨m, ?_, .same⟩
          rw [matchRecords_matchAdded, if_neg (Nat.ne_of_lt (hcons.matches_below matchId m h)), h]
      | @updateMatch _ matchId' _ _ _ _ _ _ _ _ _ match_found not_started kickoff_later updated_eq =>
          subst updated_eq
          simp only [lookup_insert_eq]
          split
          · rename_i heq
            subst heq
            cases match_found.symm.trans h
            exact ⟨_, rfl, .revised not_started kickoff_later⟩
          · exact ⟨m, h, .same⟩
      | finishMatch _ _ match_found =>
          simp only [lookup_insert_eq]
          split
          · rename_i heq
            subst heq
            cases match_found.symm.trans h
            exact ⟨_, rfl, .finished⟩
          · exact ⟨m, h, .same⟩
      | _ => exact ⟨m, h, .same⟩
  | _ => exact ⟨m, h, .same⟩

/-- The match has the identity it was created with, and is still finished if
it was. -/
structure SameMatch (m m' : Match) : Prop where
  matchId_eq : m'.matchId = m.matchId
  createdBy_eq : m'.createdBy = m.createdBy
  finished_kept : m.isFinished = true → m'.isFinished = true

theorem SameMatch.trans {m m' m'' : Match} (h : SameMatch m m') (h' : SameMatch m' m'') :
    SameMatch m m'' where
  matchId_eq := h'.matchId_eq.trans h.matchId_eq
  createdBy_eq := h'.createdBy_eq.trans h.createdBy_eq
  finished_kept := fun hfinished => h'.finished_kept (h.finished_kept hfinished)

theorem MatchChange.sameMatch {now : ℕ} {m m' : Match} (h : MatchChange now m m') :
    SameMatch m m' := by
  cases h with
  | same => exact ⟨rfl, rfl, id⟩
  | revised => exact ⟨rfl, rfl, id⟩
  | finished => exact ⟨rfl, rfl, fun _ => rfl⟩

/-- What an update may replace. -/
def fixture (m : Match) : String × String × String × String × ℕ :=
  (m.homeTeam, m.awayTeam, m.league, m.venue, m.kickoffTime)

theorem MatchChange.fixture_eq {now : ℕ} {m m' : Match} (h : MatchChange now m m')
    (hstarted : m.kickoffTime ≤ now) : fixture m' = fixture m := by
  cases h with
  | same => rfl
  | revised not_started => exact absurd hstarted (not_le.mpr not_started)
  | finished => rfl

theorem sameMatch_later (x : Execution N) {matchId : ℕ} {m : Match}
    (h : x.final.market.matchRecords.lookup matchId = some m) (later : List (Action N)) :
    ∃ m', (x.andThen later).final.market.matchRecords.lookup matchId = some m' ∧
      SameMatch m m' := by
  refine invariant_later (P := fun w : World N => ∃ m',
    w.market.matchRecords.lookup matchId = some m' ∧ SameMatch m m') x ⟨m, h, rfl, rfl, id⟩ ?_ later
  rintro w a reply w' hcons hstep ⟨m', hm', hsame⟩
  obtain ⟨m'', hm'', hchange⟩ := match_step hcons hstep hm'
  exact ⟨m'', hm'', hsame.trans hchange.sameMatch⟩

theorem fixture_later (x : Execution N) {matchId : ℕ} {m : Match}
    (h : x.final.market.matchRecords.lookup matchId = some m)
    (hstarted : m.kickoffTime ≤ x.final.now) (later : List (Action N)) :
    ∃ m', (x.andThen later).final.market.matchRecords.lookup matchId = some m' ∧
      fixture m' = fixture m := by
  refine (invariant_later (P := fun w : World N => m.kickoffTime ≤ w.now ∧ ∃ m',
    w.market.matchRecords.lookup matchId = some m' ∧ fixture m' = fixture m) x
    ⟨hstarted, m, h, rfl⟩ ?_ later).2
  rintro w a reply w' hcons hstep ⟨hpast, m', hm', hsame⟩
  obtain ⟨m'', hm'', hchange⟩ := match_step hcons hstep hm'
  have hkickoff : m'.kickoffTime = m.kickoffTime := congrArg (fun f => f.2.2.2.2) hsame
  refine ⟨hpast.trans hstep.now_le, m'', hm'', ?_⟩
  rw [← hsame]
  exact hchange.fixture_eq (hkickoff.trans_le hpast)

theorem createMatch_ok {w w' : World N} {signatures : Signatures N} {admin : Address}
    {homeTeam awayTeam league venue : String} {kickoffTime : ℕ} {value : Value}
    (hcons : Consistent N.market w.market)
    (hstep : step w (.market signatures
      (.createMatch admin homeTeam awayTeam league venue kickoffTime)) = (.ok value, w')) :
    ∃ matchId, value = .id matchId ∧ w.market.matchRecords.lookup matchId = none ∧
      w'.market.matchRecords.lookup matchId =
        some ⟨matchId, homeTeam, awayTeam, league, venue, kickoffTime, admin, false⟩ ∧
      w'.now < kickoffTime := by
  cases committed_of_returns (step_market.mp hstep) with
  | createMatch _ _ kickoff_later _ match_eq =>
      subst match_eq
      refine ⟨_, rfl, ?_, ?_, kickoff_later⟩
      · rw [Option.eq_none_iff_forall_ne_some]
        intro m hm
        exact absurd (hcons.matches_below _ m hm) (lt_irrefl _)
      · rw [matchRecords_matchAdded, if_pos rfl]

theorem updateMatch_ok {w w' : World N} {signatures : Signatures N} {admin : Address}
    {matchId : ℕ} {homeTeam awayTeam league venue : Option String} {kickoffTime : Option ℕ}
    {value : Value}
    (hstep : step w (.market signatures
      (.updateMatch admin matchId homeTeam awayTeam league venue kickoffTime)) =
        (.ok value, w')) :
    ∃ m, w.market.matchRecords.lookup matchId = some m ∧
      w'.market = { w.market with
        matchRecords := w.market.matchRecords.insert matchId
          (revised m homeTeam awayTeam league venue kickoffTime) } ∧
      w'.now < (revised m homeTeam awayTeam league venue kickoffTime).kickoffTime := by
  cases committed_of_returns (step_market.mp hstep) with
  | @updateMatch _ _ _ _ _ _ _ m _ _ _ match_found not_started kickoff_later updated_eq =>
      subst updated_eq
      refine ⟨m, match_found, rfl, ?_⟩
      cases kickoffTime with
      | none => exact not_started
      | some kt => exact kickoff_later kt rfl

/-- A match keeps its identity and stays finished once it is; from its kickoff
on its teams, league, venue and kickoff time are final.  Every success of
`create_match` or `update_match` leaves a kickoff that is still to come, and an
update writes the given fields of its match and nothing else. -/
theorem match_lifecycle (x : Execution N) :
    (∀ matchId m, x.final.market.matchRecords.lookup matchId = some m →
      (∀ later, ∃ m', (x.andThen later).final.market.matchRecords.lookup matchId = some m' ∧
        m'.matchId = m.matchId ∧ m'.createdBy = m.createdBy ∧
        (m.isFinished = true → m'.isFinished = true)) ∧
      (m.kickoffTime ≤ x.final.now → ∀ later, ∃ m',
        (x.andThen later).final.market.matchRecords.lookup matchId = some m' ∧
          m'.homeTeam = m.homeTeam ∧ m'.awayTeam = m.awayTeam ∧ m'.league = m.league ∧
          m'.venue = m.venue ∧ m'.kickoffTime = m.kickoffTime)) ∧
      (∀ signatures admin homeTeam awayTeam league venue kickoffTime value w',
        step x.final (.market signatures
          (.createMatch admin homeTeam awayTeam league venue kickoffTime)) = (.ok value, w') →
        ∃ matchId, value = .id matchId ∧ x.final.market.matchRecords.lookup matchId = none ∧
          w'.market.matchRecords.lookup matchId =
            some ⟨matchId, homeTeam, awayTeam, league, venue, kickoffTime, admin, false⟩ ∧
          w'.now < kickoffTime) ∧
      ∀ signatures admin matchId homeTeam awayTeam league venue kickoffTime value w',
        step x.final (.market signatures
          (.updateMatch admin matchId homeTeam awayTeam league venue kickoffTime)) =
            (.ok value, w') →
        ∃ m m', x.final.market.matchRecords.lookup matchId = some m ∧
          w'.market =
            { x.final.market with
              matchRecords := x.final.market.matchRecords.insert matchId m' } ∧
          m' =
            { m with
              homeTeam := homeTeam.getD m.homeTeam
              awayTeam := awayTeam.getD m.awayTeam
              league := league.getD m.league
              venue := venue.getD m.venue
              kickoffTime := kickoffTime.getD m.kickoffTime } ∧
          w'.now < m'.kickoffTime := by
  have hcons := consistent_run x
  refine ⟨?_, ?_, ?_⟩
  · intro matchId m h
    constructor
    · intro later
      obtain ⟨m', hm', hsame⟩ := sameMatch_later x h later
      exact ⟨m', hm', hsame.matchId_eq, hsame.createdBy_eq, hsame.finished_kept⟩
    · intro hstarted later
      obtain ⟨m', hm', hfixture⟩ := fixture_later x h hstarted later
      simp only [fixture, Prod.mk.injEq] at hfixture
      exact ⟨m', hm', hfixture⟩
  · intro signatures admin homeTeam awayTeam league venue kickoffTime value w' hstep
    exact createMatch_ok hcons hstep
  · intro signatures admin matchId homeTeam awayTeam league venue kickoffTime value w' hstep
    obtain ⟨m, hm, hmarket, hkickoff⟩ := updateMatch_ok hstep
    exact ⟨m, _, hm, hmarket, rfl, hkickoff⟩

end PredictX.MatchLifecycle
