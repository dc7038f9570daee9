import PredictX.Views

namespace PredictX.Symmetry

open PredictX.Bookkeeping
open PredictX.CommittedCalls
open PredictX.FiniteStore
open PredictX.HostCall
open PredictX.HostCall.Call
open PredictX.Identifiers
open PredictX.LabelledRuns
open PredictX.MarketStorage
open PredictX.OrderedChecks
open PredictX.PredictionMarket
open PredictX.Refunds
open PredictX.Settlement
open PredictX.SharedTypes
open PredictX.SorobanHost
open PredictX.Staking
open PredictX.System
open PredictX.TokenContracts
open PredictX.Verdicts
open PredictX.Views
open PredictX.VotingOracle
open PredictX.WinningsPreview

variable {N : Network}

/-- Another way to tell the same story: with yes and no exchanged or not, and
with every time later by the same number of seconds. -/
structure Retelling where
  exchanged : Bool
  delay : ℕ

namespace Retelling

variable (r : Retelling)

def side (s : StakeSide) : StakeSide := if r.exchanged = true then s.opposite else s

/-- The outcome and the time of the resolution are never set, and stay. -/
def poll (p : Poll) : Poll :=
  { p with
    lockTime := p.lockTime + r.delay
    yesPool := poolOnSide p (r.side .yes)
    noPool := poolOnSide p (r.side .no)
    yesCount := count p (r.side .yes)
    noCount := count p (r.side .no)
    createdAt := p.createdAt + r.delay }

def stake (record : Stake) : Stake :=
  { record with side := r.side record.side, stakedAt := record.stakedAt + r.delay }

def matchRecord (m : Match) : Match := { m with kickoffTime := m.kickoffTime + r.delay }

def record (entry : StoredPollStatus) : StoredPollStatus :=
  { entry with updatedAt := entry.updatedAt + r.delay }

def oracle (s : OracleStorage) : OracleStorage :=
  { s with pollStatus := mapValues r.record s.pollStatus }

def event : Event → Event
  | .stakePlaced pollId staker amount s => .stakePlaced pollId staker amount (r.side s)
  | .matchCreated matchId newMatch => .matchCreated matchId (r.matchRecord newMatch)
  | .matchUpdated matchId updated => .matchUpdated matchId (r.matchRecord updated)
  | e => e

def market (m : Market) : Market :=
  { m with
    stakes := mapValues r.stake m.stakes
    matchRecords := mapValues r.matchRecord m.matchRecords
    polls := mapValues r.poll m.polls }

def world (w : World N) : World N where
  now := w.now + r.delay
  market := r.market w.market
  oracles := mapValues r.oracle w.oracles
  tokens := w.tokens
  events := w.events.map r.event

def op : MarketOp → MarketOp
  | .createPoll creator matchId question category lockTime =>
      .createPoll creator matchId question category (lockTime + r.delay)
  | .stake staker pollId amount s => .stake staker pollId amount (r.side s)
  | .createMatch admin homeTeam awayTeam league venue kickoffTime =>
      .createMatch admin homeTeam awayTeam league venue (kickoffTime + r.delay)
  | .updateMatch admin matchId homeTeam awayTeam league venue kickoffTime =>
      .updateMatch admin matchId homeTeam awayTeam league venue (kickoffTime.map (· + r.delay))
  | o => o

def action : Action N → Action N
  | .market signatures o => .market signatures (r.op o)
  | a => a

def value : Value → Value
  | .stake record => .stake (r.stake record)
  | .matchRecord m => .matchRecord (r.matchRecord m)
  | v => v

def execution (x : Execution N) : Execution N where
  start := x.start + r.delay
  tokens := x.tokens
  actions := x.actions.map r.action

def view : View → View
  | .calculatePotentialWinnings pollId s amount =>
      .calculatePotentialWinnings pollId (r.side s) amount
  | v => v

def poolInfo (info : PoolInfo) : PoolInfo where
  yesPool := if r.exchanged = true then info.noPool else info.yesPool
  noPool := if r.exchanged = true then info.yesPool else info.noPool
  yesCount := if r.exchanged = true then info.noCount else info.yesCount
  noCount := if r.exchanged = true then info.yesCount else info.noCount

def answer : (v : View) → v.Answer → (r.view v).Answer
  | .getPoll _ => r.poll
  | .getStakeInfo .. => r.stake
  | .getMatch _ => r.matchRecord
  | .getPoolInfo _ => r.poolInfo
  | .admin | .oracle | .isPaused | .oraclePollStatus _ | .checkEmergencyEligible _
  | .getUserStakes _ | .hasUserStaked .. | .calculatePotentialWinnings ..
  | .getPlatformStats | .getTokenAddress | .getTreasuryAddress | .getPlatformFeeBps
  | .getContractBalance | .getMatchPolls _ | .getMatchCount => id

end Retelling

section Parts

variable (r : Retelling)

theorem side_side (s : StakeSide) : r.side (r.side s) = s := by
  rcases r with ⟨_ | _, _⟩
  · rfl
  · cases s <;> rfl

theorem pool_poll (p : Poll) (s : StakeSide) : poolOnSide (r.poll p) s = poolOnSide p (r.side s) := by
  cases s <;> rfl

theorem count_poll (p : Poll) (s : StakeSide) : count (r.poll p) s = count p (r.side s) := by
  cases s <;> rfl

theorem lockTime_poll (p : Poll) : (r.poll p).lockTime = p.lockTime + r.delay := rfl

theorem kickoffTime_matchRecord (m : Match) :
    (r.matchRecord m).kickoffTime = m.kickoffTime + r.delay := rfl

theorem matchRecord_revised (m : Match) (homeTeam awayTeam league venue : Option String)
    (kickoffTime : Option ℕ) :
    r.matchRecord (revised m homeTeam awayTeam league venue kickoffTime) =
      revised (r.matchRecord m) homeTeam awayTeam league venue
        (kickoffTime.map (· + r.delay)) := by
  cases kickoffTime with
  | none | some => rfl

theorem total_poll (p : Poll) :
    (r.poll p).yesPool + (r.poll p).noPool = p.yesPool + p.noPool := by
  rcases r with ⟨_ | _, _⟩
  · rfl
  · exact add_comm _ _

theorem previewed_poll (kept : ℤ) (p : Poll) (s : StakeSide) (amount : ℤ) :
    previewed kept (r.poll p) (r.side s) amount = previewed kept p s amount := by
  rw [previewed, total_poll, pool_poll, side_side]
  rfl

theorem previewChecks_poll (p : Poll) (s : StakeSide) (amount : ℤ) (fee : ℕ) :
    previewChecks (r.poll p) (r.side s) amount fee = previewChecks p s amount fee := by
  unfold previewChecks
  simp only [total_poll, pool_poll, side_side, previewed_poll]

theorem poll_credited (p : Poll) (amount : ℤ) (s : StakeSide) :
    r.poll (credited p amount s) = credited (r.poll p) amount (r.side s) := by
  rcases r with ⟨_ | _, _⟩
  · cases s <;> rfl
  · cases s <;> rfl

theorem poll_fresh {p : Poll} (h : ∀ s, poolOnSide p s = 0 ∧ count p s = 0) : r.poll p =
    { p with lockTime := p.lockTime + r.delay, createdAt := p.createdAt + r.delay } := by
  obtain ⟨hyes, hyes'⟩ := h .yes
  obtain ⟨hno, hno'⟩ := h .no
  simp only [poolOnSide, count] at hyes hyes' hno hno'
  simp only [Retelling.poll, (h _).1, (h _).2, hyes, hyes', hno, hno']

end Parts

/-- No oracle has a record from the time zero, which would count as none. -/
structure Stamped (w : World N) : Prop where
  running : 0 < w.now
  records : ∀ oracleId s pollId entry, w.oracles.lookup oracleId = some s →
    s.pollStatus.lookup pollId = some entry → 0 < entry.updatedAt

section Checks

variable (r : Retelling) (w : World N)

theorem expired_world (time : ℕ) : expired (r.world w) (time + r.delay) = expired w time :=
  decide_eq_decide.mpr Nat.add_le_add_iff_right

theorem lookup_oracles (oracleId : Address) :
    (r.world w).oracles.lookup oracleId = (w.oracles.lookup oracleId).map r.oracle :=
  lookup_mapValues _ _ _

theorem lookup_stakes (k : ℕ × Address) :
    (r.world w).market.stakes.lookup k = (w.market.stakes.lookup k).map r.stake :=
  lookup_mapValues _ _ _

theorem lookup_matchRecords (matchId : ℕ) : (r.world w).market.matchRecords.lookup matchId =
    (w.market.matchRecords.lookup matchId).map r.matchRecord :=
  lookup_mapValues _ _ _

theorem lookup_polls (pollId : ℕ) :
    (r.world w).market.polls.lookup pollId = (w.market.polls.lookup pollId).map r.poll :=
  lookup_mapValues _ _ _

theorem undeployed_world : undeployed (r.world w) = undeployed w := by
  funext oracleId
  rw [undeployed, lookup_oracles, Option.isNone_map]
  rfl

theorem pollStatusOf_oracle (s : OracleStorage) (pollId : ℕ) :
    (r.oracle s).pollStatusOf pollId = s.pollStatusOf pollId := by
  rw [OracleStorage.pollStatusOf, Retelling.oracle, lookup_mapValues, Option.map_map]
  rfl

theorem refundable_oracle {s : OracleStorage} {pollId : ℕ}
    (hstamped : r.delay = 0 ∨ ∀ entry, s.pollStatus.lookup pollId = some entry →
      0 < entry.updatedAt) (now : ℕ) :
    Refundable (r.oracle s) pollId (now + r.delay) ↔ Refundable s pollId now := by
  unfold Refundable
  rw [pollStatusOf_oracle]
  cases hentry : s.pollStatus.lookup pollId with
  | none => simp [OracleStorage.pollStatusOf, hentry]
  | some entry =>
      have hupdated : s.updatedAtOf pollId = entry.updatedAt := by
        rw [OracleStorage.updatedAtOf, hentry]
        rfl
      have hupdated' : (r.oracle s).updatedAtOf pollId = entry.updatedAt + r.delay := by
        rw [OracleStorage.updatedAtOf, Retelling.oracle, lookup_mapValues, hentry]
        rfl
      have hzero : entry.updatedAt + r.delay ≠ 0 ↔ entry.updatedAt ≠ 0 := by
        rcases hstamped with hdelay | hstamped
        · rw [hdelay, add_zero]
        · have hpos := hstamped entry hentry
          omega
      rw [hupdated, hupdated', hzero, Nat.add_sub_add_right]

theorem amountAt_world (k : ℕ × Address) :
    amountAt (r.world w).market k = amountAt w.market k := by
  rw [amountAt, lookup_stakes, Option.map_map]
  rfl

theorem pollChecks_poll (signatures : Signatures N) (staker : Address) (pollId : ℕ) (amount : ℤ)
    (s : StakeSide) (p : Poll) :
    pollChecks signatures (r.world w) staker pollId amount (r.side s) (r.poll p) =
      pollChecks signatures w staker pollId amount s p := by
  unfold pollChecks stakeSums
  rw [pool_poll, count_poll, side_side, lockTime_poll, expired_world]
  rfl

theorem checks_world (hstamped : r.delay = 0 ∨ Stamped w) (signatures : Signatures N)
    (o : MarketOp) : checks signatures (r.world w) (r.op o) = checks signatures w o := by
  cases o with
  | initializeMarket | setOracle | pause | unpause => rfl
  | cancelPoll caller pollId =>
      have hobeys : ∀ oracleId, obeys signatures (r.world w) oracleId =
          obeys signatures w oracleId := by
        intro oracleId
        rw [obeys, lookup_oracles, Option.any_map]
        rfl
      have hunset : ∀ oracleId, (((r.world w).oracles.lookup oracleId).any fun s =>
          s.admin.isNone) = ((w.oracles.lookup oracleId).any fun s => s.admin.isNone) := by
        intro oracleId
        rw [lookup_oracles, Option.any_map]
        rfl
      simp only [Retelling.op, checks, undeployed_world, hobeys, hunset]
      rfl
  | emergencyWithdraw user pollId =>
      have hrefundable : ∀ oracleId, (((r.world w).oracles.lookup oracleId).any fun s =>
          !decide (Refundable s pollId (r.world w).now)) =
            ((w.oracles.lookup oracleId).any fun s => !decide (Refundable s pollId w.now)) := by
        intro oracleId
        rw [lookup_oracles]
        cases hfound : w.oracles.lookup oracleId with
        | none => rfl
        | some s =>
            have hrecords := hstamped.imp_right fun h entry =>
              h.records oracleId s pollId entry hfound
            exact congrArg (!·) (decide_eq_decide.mpr (refundable_oracle r hrecords w.now))
      simp only [Retelling.op, checks, undeployed_world, hrefundable, lookup_stakes, Option.isNone_map,
        amountAt_world]
      rfl
  | createPoll creator matchId question category lockTime =>
      simp only [Retelling.op, checks, lookup_matchRecords, Option.isNone_map, expired_world]
      rfl
  | stake staker pollId amount s =>
      simp only [Retelling.op, checks, lookup_polls, Option.isNone_map, Option.map_map,
        Function.comp_def, pollChecks_poll]
      rfl
  | createMatch caller homeTeam awayTeam league venue kickoffTime =>
      simp only [Retelling.op, checks, expired_world]
      rfl
  | updateMatch caller matchId homeTeam awayTeam league venue kickoffTime =>
      simp only [Retelling.op, checks, lookup_matchRecords, Option.isNone_map, Option.any_map,
        kickoffTime_matchRecord, expired_world]
      rfl
  | finishMatch caller matchId =>
      simp only [Retelling.op, checks, lookup_matchRecords, Option.isNone_map]
      rfl

theorem granted_world (o : MarketOp) :
    granted (r.world w) (r.op o) = r.value (granted w o) := by
  cases o with
  | emergencyWithdraw user pollId => exact congrArg Value.amount (amountAt_world r w _)
  | stake staker pollId amount s => rfl
  | updateMatch caller matchId homeTeam awayTeam league venue kickoffTime =>
      simp only [Retelling.op, granted, lookup_matchRecords]
      cases w.market.matchRecords.lookup matchId with
      | none => rfl
      | some m => exact congrArg Value.matchRecord (matchRecord_revised r m _ _ _ _ _).symm
  | _ => rfl

end Checks

section Steps

variable {r : Retelling} {w w₁ w₂ : World N}

theorem oracle_recorded (s : OracleStorage) (pollId : ℕ) (entry : StoredPollStatus) :
    r.oracle (s.recorded pollId entry) = (r.oracle s).recorded pollId (r.record entry) := by
  simp only [Retelling.oracle, OracleStorage.recorded, mapValues_insert]

theorem market_staked (m : Market) (p : Poll) (record : Stake) :
    r.market (stakedMarket m p record) = stakedMarket (r.market m) (r.poll p) (r.stake record) := by
  simp only [Retelling.market, stakedMarket, mapValues_insert, poll_credited]
  rfl

theorem market_pollAdded (m : Market) (p : Poll) :
    r.market (pollAddedMarket m p) = pollAddedMarket (r.market m) (r.poll p) := by
  simp only [Retelling.market, pollAddedMarket, mapValues_insert]
  rfl

theorem market_matchAdded (m : Market) (newMatch : Match) :
    r.market (matchAddedMarket m newMatch) =
      matchAddedMarket (r.market m) (r.matchRecord newMatch) := by
  simp only [Retelling.market, matchAddedMarket, mapValues_insert]
  rfl

theorem committed_world {signatures : Signatures N} {o : MarketOp} {value value' : Value}
    (h : Committed (callEnv N.market signatures w.now) w o value w₁)
    (h' : Committed (callEnv N.market signatures (r.world w).now) (r.world w) (r.op o) value' w₂) :
    w₂ = r.world w₁ := by
  cases h with
  | initializeMarket =>
      cases h'
      rfl
  | setOracle =>
      cases h'
      rfl
  | pause | unpause =>
      cases h'
      simp only [Retelling.world, List.map_append]
      rfl
  | cancelPoll _ _ _ oracle_found deployed =>
      cases h' with
      | cancelPoll _ _ _ oracle_found' deployed' =>
          cases oracle_found.symm.trans oracle_found'
          rw [lookup_oracles, deployed, Option.map_some] at deployed'
          cases deployed'
          simp only [Retelling.world, List.map_append, mapValues_insert, oracle_recorded]
          rfl
  | emergencyWithdraw _ _ _ _ _ staked token_found transferred =>
      cases h' with
      | emergencyWithdraw _ _ _ _ _ staked' token_found' transferred' =>
          rw [lookup_stakes, staked, Option.map_some] at staked'
          cases staked'
          cases token_found.symm.trans token_found'
          cases transferred.symm.trans transferred'
          simp only [Retelling.world, List.map_append]
          rfl
  | @createPoll _ _ _ _ _ _ p _ _ _ _ _ _ _ poll_eq =>
      cases h' with
      | @createPoll _ _ _ _ _ _ p' _ _ _ _ _ _ _ poll_eq' =>
          have hempty : ∀ s, poolOnSide p s = 0 ∧ count p s = 0 := by
            intro s
            rw [poll_eq]
            cases s <;> exact ⟨rfl, rfl⟩
          have hpoll : p' = r.poll p := by
            rw [poll_fresh r hempty, poll_eq', poll_eq]
            rfl
          rw [hpoll]
          simp only [Retelling.world, List.map_append, market_pollAdded]
          rfl
  | stake _ _ _ poll_found _ _ _ token_found transferred _ record_eq =>
      cases h' with
      | stake _ _ _ poll_found' _ _ _ token_found' transferred' _ record_eq' =>
          rw [lookup_polls, poll_found, Option.map_some] at poll_found'
          cases poll_found'
          cases token_found.symm.trans token_found'
          cases transferred.symm.trans transferred'
          subst record_eq record_eq'
          simp only [Retelling.world, List.map_append, market_staked]
          rfl
  | createMatch _ _ _ _ match_eq =>
      cases h' with
      | createMatch _ _ _ _ match_eq' =>
          subst match_eq match_eq'
          simp only [Retelling.world, List.map_append, market_matchAdded]
          rfl
  | updateMatch _ _ match_found _ _ updated_eq =>
      cases h' with
      | updateMatch _ _ match_found' _ _ updated_eq' =>
          rw [lookup_matchRecords, match_found, Option.map_some] at match_found'
          cases match_found'
          subst updated_eq updated_eq'
          simp only [Retelling.world, Retelling.market, List.map_append, mapValues_insert,
            matchRecord_revised]
          simp only [Retelling.event, List.map_cons, List.map_nil, matchRecord_revised]
  | finishMatch _ _ match_found =>
      cases h' with
      | finishMatch _ _ match_found' =>
          rw [lookup_matchRecords, match_found, Option.map_some] at match_found'
          cases match_found'
          simp only [Retelling.world, Retelling.market, List.map_append, mapValues_insert]
          rfl

theorem Stamped.written (h : Stamped w) {oracleId : Address} {s : OracleStorage}
    (hs : ∀ pollId entry, s.pollStatus.lookup pollId = some entry → 0 < entry.updatedAt) :
    Stamped { w with oracles := w.oracles.insert oracleId s } where
  running := h.running
  records := by
    intro oracleId' s' pollId entry hfound hentry
    rw [lookup_insert_eq] at hfound
    split at hfound
    · cases hfound
      exact hs pollId entry hentry
    · exact h.records oracleId' s' pollId entry hfound hentry

theorem Stamped.recorded (h : Stamped w) {oracleId : Address} {s : OracleStorage}
    (hfound : w.oracles.lookup oracleId = some s) (pollId : ℕ) (status : PollStatus) : Stamped
      { w with oracles := w.oracles.insert oracleId (s.recorded pollId ⟨status, w.now⟩) } := by
  apply h.written
  intro pollId' entry hentry
  rw [OracleStorage.recorded, lookup_insert_eq] at hentry
  split at hentry
  · cases hentry
    exact h.running
  · exact h.records oracleId s pollId' entry hfound hentry

theorem stamped_step {a : Action N} {reply : Reply PredictXError Value}
    (hstep : Step w a reply w₁) (h : Stamped w) : Stamped w₁ := by
  cases hstep with
  | rejected => exact h
  | market committed =>
      cases committed with
      | cancelPoll _ _ _ _ deployed =>
          have hnext := h.recorded deployed
          exact ⟨h.running, (hnext _ .cancelled).records⟩
      | _ => exact ⟨h.running, h.records⟩
  | @initializeOracle _ oracleId _ storage deployed =>
      apply h.written
      intro pollId entry hentry
      exact h.records oracleId storage pollId entry deployed hentry
  | setPollStatus deployed => exact h.recorded deployed _ _
  | deployOracle =>
      apply h.written
      intro pollId entry hentry
      exact absurd hentry (by simp [OracleStorage.deployed])
  | elapse => exact ⟨h.running.trans_le (Nat.le_add_right _ _), h.records⟩
  | outside => exact ⟨h.running, h.records⟩

theorem commit_refused {ρ σ ε α : Type} {x : Call ρ σ ε α} {env : ρ} {s : σ} {reply : Reply ε α}
    (h : (x env s).reply = reply) (hrefused : ∀ a, reply ≠ .ok a) :
    (x env s).commit s = (reply, s) := by
  rcases commit_cases x env s with ⟨a, t, hcommit, -⟩ | ⟨hsame, -⟩
  · have hok : reply = .ok a := by rw [← h, ← commit_fst, hcommit]
    exact absurd hok (hrefused a)
  · exact Prod.ext (commit_fst.trans h) hsame

theorem initializeOracle_commit (admin : Address) (env : Env) (s : OracleStorage) :
    (initializeOracle admin env s).commit s =
      if s.admin.isSome = true then (.error .alreadyInitialized, s)
      else if env.authorises admin = true then (.ok (), { s with admin := some admin })
      else (.trap none, s) := by
  have hload : Returns (load (·.admin) : OracleCall (Option Address)) env s s.admin s :=
    load_returns.mpr ⟨rfl, rfl⟩
  split
  · rename_i hset
    refine commit_refused ?_ (by simp)
    rw [initializeOracle, reply_bind hload]
    exact reply_bind_error (reply_failIf hset)
  · rename_i hfresh
    split
    · rename_i hsigned
      rw [Bool.not_eq_true, Option.isSome_eq_false_iff, Option.isNone_iff_eq_none] at hfresh
      exact commit_eq_ok.mpr (initializeOracle_returns.mpr ⟨hfresh, hsigned, rfl⟩)
    · rename_i hunsigned
      refine commit_refused ?_ (by simp)
      rw [initializeOracle, reply_bind hload,
        reply_bind (failIf_returns (u := ()).mpr ⟨hfresh, rfl⟩)]
      exact reply_bind_trap (reply_requireAuth (Bool.eq_false_iff.mpr hunsigned))

theorem setPollStatus_commit (pollId : ℕ) (status : PollStatus) (env : Env) (s : OracleStorage) :
    (setPollStatus pollId status env s).commit s =
      match s.admin with
      | none => (.error .notInitialized, s)
      | some admin =>
          if env.authorises admin = true then (.ok (), s.recorded pollId ⟨status, env.timestamp⟩)
          else (.trap none, s) := by
  cases hadmin : s.admin with
  | none =>
      refine commit_refused (reply_bind_error ?_) (by simp)
      rw [VotingOracle.getAdmin, reply_bind (load_returns.mpr ⟨rfl, rfl⟩), hadmin]
      rfl
  | some admin =>
      dsimp only
      split
      · rename_i hsigned
        exact commit_eq_ok.mpr (setPollStatus_returns.mpr ⟨admin, hadmin, hsigned, rfl⟩)
      · rename_i hunsigned
        refine commit_refused ?_ (by simp)
        rw [setPollStatus, reply_bind (VotingOracle.getAdmin_returns.mpr ⟨hadmin, rfl⟩)]
        exact reply_bind_trap (reply_requireAuth (Bool.eq_false_iff.mpr hunsigned))

theorem oracle_commit (o : OracleOp) (oracleId : Address) (signatures : Signatures N) (now : ℕ)
    (s : OracleStorage) :
    (o.execute (callEnv oracleId signatures (now + r.delay)) (r.oracle s)).commit (r.oracle s) =
      Prod.map id r.oracle ((o.execute (callEnv oracleId signatures now) s).commit s) := by
  cases o with
  | initializeOracle admin =>
      dsimp only [OracleOp.execute]
      rw [initializeOracle_commit, initializeOracle_commit, apply_ite (Prod.map id r.oracle),
        apply_ite (Prod.map id r.oracle)]
      rfl
  | setPollStatus pollId status =>
      dsimp only [OracleOp.execute]
      rw [setPollStatus_commit, setPollStatus_commit]
      have hadmin : (r.oracle s).admin = s.admin := rfl
      rw [hadmin]
      cases s.admin with
      | none => rfl
      | some admin =>
          dsimp only
          rw [apply_ite (Prod.map id r.oracle), Prod.map_apply, oracle_recorded]
          rfl

theorem step_oracle (signatures : Signatures N) (oracleId : Address) (o : OracleOp) :
    step (r.world w) (.oracle signatures oracleId o) =
      ((step w (.oracle signatures oracleId o)).1.map r.value,
        r.world (step w (.oracle signatures oracleId o)).2) := by
  simp only [step, lookup_oracles]
  cases w.oracles.lookup oracleId with
  | none => rfl
  | some s =>
      have hcommit : (o.execute (callEnv oracleId signatures (r.world w).now) (r.oracle s)).commit
          (r.oracle s) = _ := oracle_commit o oracleId signatures w.now s
      dsimp only [Option.map_some]
      rw [hcommit]
      rcases (o.execute (callEnv oracleId signatures w.now) s).commit s with ⟨reply, t⟩
      cases reply with
      | ok =>
          simp only [Prod.map, Retelling.world, mapValues_insert]
          rfl
      | error | trap => rfl

theorem step_market (hstamped : r.delay = 0 ∨ Stamped w) (x x' : Execution N) (hx : x.final = w)
    (hx' : x'.final = r.world w) (signatures : Signatures N) (o : MarketOp) :
    step (r.world w) (.market signatures (r.op o)) =
      ((step w (.market signatures o)).1.map r.value,
        r.world (step w (.market signatures o)).2) := by
  have hreply : (step (r.world w) (.market signatures (r.op o))).1 =
      (step w (.market signatures o)).1.map r.value := by
    rw [← hx', step_verdict (consistent_run x') (numbered_run x') (unsettled_run x'), hx', ← hx,
      step_verdict (consistent_run x) (numbered_run x) (unsettled_run x), hx, granted_world,
      checks_world r w hstamped, verdict_map]
  refine Prod.ext hreply ?_
  have hfirst := step_cases w (.market signatures o)
  have hsecond := step_cases (r.world w) (.market signatures (r.op o))
  rw [hreply] at hsecond
  generalize (step w (.market signatures o)).1 = reply at hfirst hsecond
  generalize (step w (.market signatures o)).2 = w₁ at hfirst
  generalize (step (r.world w) (.market signatures (r.op o))).2 = w₂ at hsecond
  cases reply with
  | error | trap =>
      cases hfirst
      cases hsecond
      rfl
  | ok value =>
      cases hfirst with
      | rejected failed => exact absurd rfl (failed _)
      | market committed =>
          cases hsecond with
          | rejected failed => exact absurd rfl (failed _)
          | market committed' => exact committed_world committed committed'

theorem step_action (hstamped : r.delay = 0 ∨ Stamped w) (x x' : Execution N) (hx : x.final = w)
    (hx' : x'.final = r.world w) (a : Action N) :
    step (r.world w) (r.action a) = ((step w a).1.map r.value, r.world (step w a).2) := by
  cases a with
  | market signatures o => exact step_market hstamped x x' hx hx' signatures o
  | oracle signatures oracleId o => exact step_oracle signatures oracleId o
  | deployOracle oracleId =>
      have hmem : oracleId ∈ (r.world w).oracles ↔ oracleId ∈ w.oracles := mem_mapValues
      have hdeployed : r.oracle .deployed = .deployed := rfl
      simp only [step, Retelling.action, hmem]
      split
      · rfl
      · simp only [Retelling.world, mapValues_insert, hdeployed]
        rfl
  | elapse seconds =>
      simp only [step, Retelling.action, Retelling.world, Nat.add_right_comm]
      rfl
  | outside activity => rfl

end Steps

section Views

variable {r : Retelling} {w : World N}

theorem unwrap_map {α β : Type} (f : α → β) (stored : Option α) (reason : PredictXError) :
    unwrap (stored.map f) reason = (unwrap stored reason).map f := by
  cases stored with
  | none | some => rfl

theorem asked_world {α : Type} {f g : OracleStorage → α} {unset : Reply PredictXError α}
    (hfound : ∀ oracleId s, w.oracles.lookup oracleId = some s → f (r.oracle s) = g s) :
    asked (r.world w) f unset = asked w g unset := by
  simp only [asked, lookup_oracles]
  change (match w.market.votingOracle with | none => _ | some _ => _) = _
  cases w.market.votingOracle with
  | none => rfl
  | some oracleId =>
      dsimp only
      cases hdeployed : w.oracles.lookup oracleId with
      | none => rfl
      | some s => exact congrArg Reply.ok (hfound oracleId s hdeployed)

theorem poolInfo_poll (p : Poll) : poolInfo (r.poll p) = r.poolInfo (poolInfo p) := by
  rcases r with ⟨_ | _, _⟩
  · rfl
  · rfl

theorem ask_world (hstamped : r.delay = 0 ∨ Stamped w) (v : View) :
    ask (r.world w) (r.view v) = (ask w v).map (r.answer v) := by
  cases v with
  | getPoll pollId =>
      change ask (r.world w) (.getPoll pollId) = _
      rw [ask_getPoll, ask_getPoll, lookup_polls]
      exact unwrap_map _ _ _
  | getStakeInfo pollId user =>
      change ask (r.world w) (.getStakeInfo pollId user) = _
      rw [ask_getStakeInfo, ask_getStakeInfo, lookup_stakes]
      exact unwrap_map _ _ _
  | getMatch matchId =>
      change ask (r.world w) (.getMatch matchId) = _
      rw [ask_getMatch, ask_getMatch, lookup_matchRecords]
      exact unwrap_map _ _ _
  | getPoolInfo pollId =>
      change ask (r.world w) (.getPoolInfo pollId) = _
      rw [ask_getPoolInfo, ask_getPoolInfo, ask_getPoll, ask_getPoll, lookup_polls]
      cases w.market.polls.lookup pollId with
      | none => rfl
      | some p => exact congrArg Reply.ok (poolInfo_poll p)
  | oraclePollStatus pollId =>
      refine Eq.trans ?_ (map_id_reply _).symm
      change ask (r.world w) (.oraclePollStatus pollId) = _
      rw [reply_oraclePollStatus, reply_oraclePollStatus]
      exact asked_world fun _ s _ => pollStatusOf_oracle r s pollId
  | checkEmergencyEligible pollId =>
      refine Eq.trans ?_ (map_id_reply _).symm
      change ask (r.world w) (.checkEmergencyEligible pollId) = _
      rw [reply_checkEmergencyEligible, reply_checkEmergencyEligible]
      apply asked_world
      intro oracleId s hfound
      have hrecords := hstamped.imp_right fun h entry => h.records oracleId s pollId entry hfound
      exact decide_eq_decide.mpr (refundable_oracle r hrecords w.now)
  | calculatePotentialWinnings pollId s amount =>
      refine Eq.trans ?_ (map_id_reply _).symm
      change ask (r.world w) (.calculatePotentialWinnings pollId (r.side s) amount) = _
      rw [reply_preview, reply_preview, lookup_polls]
      simp only [Option.map_map, Function.comp_def, previewed_poll, previewChecks_poll,
        Option.isNone_map]
      rfl
  | getMatchPolls matchId =>
      refine Eq.trans ?_ (map_id_reply _).symm
      change ask (r.world w) (.getMatchPolls matchId) = _
      have hmem : matchId ∈ (r.world w).market.matchRecords ↔ matchId ∈ w.market.matchRecords :=
        mem_mapValues
      simp only [reply_getMatchPolls, hmem]
      rfl
  | getContractBalance =>
      refine Eq.trans ?_ (map_id_reply _).symm
      change ask (r.world w) .getContractBalance = _
      rw [reply_getContractBalance, reply_getContractBalance]
      rfl
  | isPaused | getUserStakes | hasUserStaked | getPlatformStats | getPlatformFeeBps
  | getMatchCount => rfl
  | admin =>
      exact ((ask_admin (r.world w)).trans (ask_admin w).symm).trans (map_id_reply _).symm
  | oracle =>
      exact ((ask_oracle (r.world w)).trans (ask_oracle w).symm).trans (map_id_reply _).symm
  | getTokenAddress =>
      refine Eq.trans ?_ (map_id_reply _).symm
      exact (ask_getTokenAddress (r.world w)).trans (ask_getTokenAddress w).symm
  | getTreasuryAddress =>
      refine Eq.trans ?_ (map_id_reply _).symm
      exact (ask_getTreasuryAddress (r.world w)).trans (ask_getTreasuryAddress w).symm

end Views

/-- A reachable ledger, and the one that the second story has in its place. -/
structure Told (r : Retelling) (w w' : World N) : Prop where
  first : ∃ x : Execution N, x.final = w
  second : ∃ x : Execution N, x.final = w'
  stamped : r.delay = 0 ∨ Stamped w
  world_eq : w' = r.world w

theorem reachable_step {w : World N} (h : ∃ x : Execution N, x.final = w) (a : Action N) :
    ∃ x : Execution N, x.final = (step w a).2 := by
  obtain ⟨x, rfl⟩ := h
  exact ⟨x.andThen [a], run_concat _ _⟩

theorem told_step {r : Retelling} {w w' : World N} (h : Told r w w') (a : Action N) :
    (step w' (r.action a)).1 = (step w a).1.map r.value ∧
      Told r (step w a).2 (step w' (r.action a)).2 := by
  obtain ⟨x, hx⟩ := h.first
  obtain ⟨x', hx'⟩ := h.second
  have hsame := step_action h.stamped x x' hx (hx'.trans h.world_eq) a
  rw [← h.world_eq] at hsame
  refine ⟨congrArg Prod.fst hsame, reachable_step h.first a, reachable_step h.second _, ?_,
    congrArg Prod.snd hsame⟩
  exact h.stamped.imp_right (stamped_step (step_cases w a))

/-- Tell a run again with yes and no exchanged, or with every time later by the
same delay: it goes the same way.  The replies, the final ledger and what every
view answers are those of the first run, with the sides exchanged and the times
delayed in the same way.  The run must not start at the time zero if it is to
be delayed, as the market takes a record from then for no record. -/
theorem execution_retold (x : Execution N) (r : Retelling) (started : r.delay = 0 ∨ 0 < x.start) :
    (r.execution x).history.map (·.output) = x.history.map (fun e => e.output.map r.value) ∧
      (r.execution x).final = r.world x.final ∧
      ∀ v, ask (r.execution x).final (r.view v) = (ask x.final v).map (r.answer v) := by
  have hstart : Told r (genesis N x.start x.tokens) (genesis N (x.start + r.delay) x.tokens) := by
    refine ⟨⟨⟨x.start, x.tokens, []⟩, rfl⟩, ⟨⟨x.start + r.delay, x.tokens, []⟩, rfl⟩, ?_, rfl⟩
    exact started.imp_right fun h => ⟨h, by simp [genesis]⟩
  obtain ⟨hfinal, houtputs⟩ := run_related (v := Reply.map r.value) (g := fun a => some (r.action a))
    (fun _ _ a _ h ha => Option.some.inj ha ▸ told_step h a)
    (fun _ _ _ _ ha => absurd ha (Option.some_ne_none _)) hstart x.actions
  have hactions : x.actions.filterMap (fun a => some (r.action a)) = x.actions.map r.action :=
    congrFun List.filterMap_eq_map _
  rw [hactions] at hfinal houtputs
  have hworld : (r.execution x).final = r.world x.final := hfinal.world_eq
  refine ⟨?_, hworld, ?_⟩
  · rw [List.filter_eq_self.mpr fun _ _ => Option.isSome_some] at houtputs
    exact houtputs
  · intro v
    rw [hworld]
    exact ask_world hfinal.stamped v

theorem execution_retold_sample :
    ask ((⟨true, 86400⟩ : Retelling).execution
        (sampleRun [.market allSign (.stake ⟨5⟩ 1 20000000 .yes)])).final (.getPoolInfo 1) =
      (ask (sampleRun [.market allSign (.stake ⟨5⟩ 1 20000000 .yes)]).final (.getPoolInfo 1)).map
        (Retelling.poolInfo ⟨true, 86400⟩) :=
  (execution_retold (sampleRun [.market allSign (.stake ⟨5⟩ 1 20000000 .yes)]) ⟨true, 86400⟩
    (.inr (by decide))).2.2 (.getPoolInfo 1)

end PredictX.Symmetry
