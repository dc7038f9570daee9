import PredictX.AdminAuthority
import PredictX.Identifiers
import PredictX.Solvency
import PredictX.StateMaps

namespace PredictX.Pausing

open PredictX.AdminAuthority
open PredictX.Bookkeeping
open PredictX.CommittedCalls
open PredictX.EscrowRefinement
open PredictX.FiniteStore
open PredictX.HostCall
open PredictX.HostCall.Call
open PredictX.Identifiers
open PredictX.LabelledRuns
open PredictX.MarketStorage
open PredictX.PredictionMarket
open PredictX.SharedTypes
open PredictX.SorobanHost
open PredictX.StateMaps
open PredictX.System
open PredictX.TokenContracts
open PredictX.TokenUtils
open PredictX.VotingOracle

variable {N : Network}

section Blindness

/-- The same ledger with another pause flag, or none. -/
def withPaused (flag : Option Bool) (w : World N) : World N :=
  { w with market := { w.market with paused := flag } }

variable {flag : Option Bool}

theorem respects_requireAuth (address : Address) :
    Respects (withPaused flag) (requireAuth address : MarketCall N Unit) :=
  respects_bind respects_context fun _ => respects_require _

theorem respects_timestamp : Respects (withPaused flag) (timestamp : MarketCall N ℕ) :=
  respects_bind respects_context fun _ => respects_pure _

theorem respects_checkedI128 (x : ℤ) :
    Respects (withPaused flag) (checkedI128 x : MarketCall N ℤ) :=
  respects_bind (respects_require _) fun _ => respects_pure _

theorem respects_callOracle {α : Type} (oracleId : Address) (entry : OracleCall α) :
    Respects (withPaused flag) (callOracle oracleId entry : MarketCall N α) := by
  intro env w
  change callOracle oracleId entry env { w with market := _ } = _
  unfold callOracle
  cases w.oracles.lookup oracleId with
  | none => rfl
  | some storage =>
      dsimp only
      cases entry (env.callee oracleId) storage <;> rfl

theorem respects_getOracle : Respects (withPaused flag) (getOracle : MarketCall N Address) :=
  respects_bind (respects_load fun _ => rfl) fun _ => respects_okOr _ _

theorem respects_setMarket {f : Market → Market}
    (h : ∀ m : Market, f { m with paused := flag } = { f m with paused := flag }) :
    Respects (withPaused flag) (setMarket f : MarketCall N Unit) := by
  apply respects_store
  intro w
  change ({ w with market := f { w.market with paused := flag } } : World N) = _
  rw [h]
  rfl

theorem respects_publish (event : Event) :
    Respects (withPaused flag) (publish event : MarketCall N Unit) :=
  respects_store fun _ => rfl

theorem respects_transferFromContract (dst : Address) (amount : ℤ) :
    Respects (withPaused flag) (transferFromContract dst amount : MarketCall N Unit) := by
  refine respects_bind (respects_bind (respects_load fun _ => rfl) fun _ => respects_okOr _ _) ?_
  intro token
  refine respects_bind respects_context fun env => respects_bind respects_context fun env' => ?_
  refine respects_bind (respects_load fun _ => rfl) fun tokens => ?_
  exact respects_bind (respects_orAbort _ _) fun _ => respects_store fun _ => rfl

theorem respects_checkEmergencyEligible (pollId : ℕ) :
    Respects (withPaused flag) (checkEmergencyEligible pollId : MarketCall N Bool) := by
  refine respects_bind (respects_load fun _ => rfl) fun oracle => ?_
  cases oracle with
  | none => exact respects_pure _
  | some oracleId =>
      refine respects_bind (respects_callOracle _ _) fun status => ?_
      refine respects_ite (respects_pure _) (respects_ite (respects_pure _) ?_)
      refine respects_bind (respects_callOracle _ _) fun updatedAt => ?_
      refine respects_bind respects_timestamp fun now => ?_
      exact respects_ite (respects_pure _) (respects_pure _)

theorem respects_eligible (oracleId : Address) (pollId : ℕ) :
    Respects (withPaused flag) (eligible oracleId pollId : MarketCall N Bool) := by
  refine respects_bind (respects_callOracle _ _) fun status => ?_
  refine respects_ite (respects_pure _) (respects_ite ?_ (respects_pure _))
  refine respects_bind (respects_callOracle _ _) fun updatedAt => ?_
  exact respects_bind respects_timestamp fun now => respects_pure _

theorem respects_emergencyWithdraw (user : Address) (pollId : ℕ) :
    Respects (withPaused flag)
      (PredictionMarket.emergencyWithdraw user pollId : MarketCall N ℤ) := by
  refine respects_bind (respects_requireAuth user) fun _ => ?_
  refine respects_bind (respects_load fun _ => rfl) fun claimed => ?_
  refine respects_bind (respects_failIf _ _) fun _ => ?_
  refine respects_bind respects_getOracle fun oracleId => ?_
  refine respects_bind (respects_eligible _ _) fun eligible => ?_
  refine respects_bind (respects_failIf _ _) fun _ => ?_
  refine respects_bind (respects_load fun _ => rfl) fun stored => ?_
  refine respects_bind (respects_okOr _ _) fun stake => ?_
  refine respects_bind (respects_setMarket fun _ => rfl) fun _ => ?_
  refine respects_bind (respects_transferFromContract _ _) fun _ => ?_
  refine respects_bind (respects_load fun _ => rfl) fun stats => ?_
  refine respects_bind (respects_checkedI128 _) fun locked => ?_
  refine respects_bind (respects_setMarket fun _ => rfl) fun _ => ?_
  exact respects_bind (respects_publish _) fun _ => respects_pure _

end Blindness

/-- The transaction lifted the pause. -/
def Unpauses (e : Transaction N) : Prop :=
  ∃ signatures admin value, e.input = .market signatures (.unpause admin) ∧ e.output = .ok value

/-- The transaction created or cancelled a poll, took a stake or replaced the
oracle. -/
def TakesIn (e : Transaction N) : Prop :=
  ∃ signatures op value, e.input = .market signatures op ∧ e.output = .ok value ∧
    match op with
    | .createPoll .. | .cancelPoll .. | .stake .. | .setOracle .. => True
    | _ => False

/-- The transaction leaves the locked value as it is, and the market's balances
too, up to what others sent to it; or it pays back a stake out of both. -/
def MovesOnlyRefunds (e : Transaction N) : Prop :=
  (e.after.market.stats.totalValueLocked = e.before.market.stats.totalValueLocked ∧
      ∀ token, marketBalance e.after token = marketBalance e.before token + directReceipt token e) ∨
    ∃ pollId user amount token,
      accountEvent e = some (.refund (pollId, user) amount) ∧ 0 ≤ amount ∧
        e.before.market.tokenAddress = some token ∧
        e.after.market.stats.totalValueLocked =
          e.before.market.stats.totalValueLocked - amount ∧
        ∀ token', marketBalance e.after token' =
          marketBalance e.before token' - if token' = token then amount else 0

/-- The market is still paused, and holds what it held when it was paused; a
match created since then starts with an empty list. -/
structure Frozen (m m' : Market) : Prop where
  paused : m'.isPaused = true
  votingOracle : m'.votingOracle = m.votingOracle
  polls : m'.polls = m.polls
  stakes : m'.stakes = m.stakes
  hasStaked : m'.hasStaked = m.hasStaked
  userStakes : m'.userStakes = m.userStakes
  matches_kept : ∀ matchId ∈ m.matchRecords, matchId ∈ m'.matchRecords
  matchPolls : ∀ matchId, m'.matchPolls.lookup matchId = m.matchPolls.lookup matchId ∨
    m.matchPolls.lookup matchId = none ∧ m'.matchPolls.lookup matchId = some [] ∧
      matchId ∉ m.matchRecords ∧ matchId ∈ m'.matchRecords

theorem Frozen.start {m : Market} (h : m.isPaused = true) : Frozen m m :=
  ⟨h, rfl, rfl, rfl, rfl, rfl, fun _ h => h, fun _ => .inl rfl⟩

theorem Frozen.matchRevised {m m' : Market} (h : Frozen m m') (matchId : ℕ) (new : Match) :
    Frozen m { m' with matchRecords := m'.matchRecords.insert matchId new } := by
  have hkept : ∀ id ∈ m'.matchRecords, id ∈ m'.matchRecords.insert matchId new :=
    fun _ hid => Finmap.mem_insert.mpr (.inr hid)
  refine { h with matches_kept := fun id hid => hkept id (h.matches_kept id hid), matchPolls := ?_ }
  intro id
  rcases h.matchPolls id with hsame | ⟨hnone, hlist, hfresh, hmatch⟩
  · exact .inl hsame
  · exact .inr ⟨hnone, hlist, hfresh, hkept id hmatch⟩

theorem Frozen.matchAdded {m m' : Market} (h : Frozen m m') (hnumbered : Numbered m')
    {newMatch : Match} (matchId_eq : newMatch.matchId = m'.nextMatchId.getD 1) :
    Frozen m (matchAddedMarket m' newMatch) := by
  have hnew : newMatch.matchId ∉ m'.matchRecords := by
    rw [matchId_eq]
    exact hnumbered.match_fresh
  have hempty : pollList m' newMatch.matchId = [] := hnumbered.pollList_fresh hnew
  refine { h with matches_kept := ?_, matchPolls := ?_ }
  · intro matchId hmatch
    exact Finmap.mem_insert.mpr (.inr (h.matches_kept matchId hmatch))
  · intro matchId
    rw [matchAddedMarket, lookup_insert_eq]
    rcases h.matchPolls matchId with hsame | ⟨hnone, hlist, hfresh, hmatch⟩
    · split
      · rename_i heq
        subst heq
        -- A list that was stored at the pause is empty, so writing an empty one keeps it.
        cases hstored : m.matchPolls.lookup newMatch.matchId with
        | none =>
            exact .inr ⟨rfl, rfl, fun hmatch => hnew (h.matches_kept _ hmatch),
              Finmap.mem_insert.mpr (.inl rfl)⟩
        | some ids =>
            rw [pollList, hsame, hstored] at hempty
            exact .inl (congrArg some (Eq.symm hempty))
      · exact .inl hsame
    · have hother : matchId ≠ newMatch.matchId := by
        rintro rfl
        exact hnew hmatch
      rw [if_neg hother]
      exact .inr ⟨hnone, hlist, hfresh, Finmap.mem_insert.mpr (.inr hmatch)⟩

theorem frozen_step {m : Market} {w w' : World N} {a : Action N}
    {reply : Reply PredictXError Value} (hstep : Step w a reply w')
    (hnumbered : Numbered w.market) (hadmin : w.market.admin ≠ none)
    (hrest : ¬ Unpauses (⟨w, a, reply, w'⟩ : Transaction N)) (h : Frozen m w.market) :
    Frozen m w'.market := by
  have hpaused : w.market.isPaused ≠ false := by simp [h.paused]
  cases hstep with
  | market committed =>
      cases committed with
      | initializeMarket fresh => exact absurd fresh hadmin
      | setOracle notPaused => exact absurd notPaused hpaused
      | pause => exact { h with paused := rfl }
      | unpause => exact absurd ⟨_, _, _, rfl, rfl⟩ hrest
      | cancelPoll notPaused => exact absurd notPaused hpaused
      | emergencyWithdraw => exact { h with }
      | createPoll notPaused => exact absurd notPaused hpaused
      | stake _ notPaused => exact absurd notPaused hpaused
      | createMatch _ _ _ _ match_eq => exact h.matchAdded hnumbered (by rw [match_eq])
      | updateMatch => exact h.matchRevised _ _
      | finishMatch => exact h.matchRevised _ _
  | _ => exact h

theorem not_takesIn {w w' : World N} {a : Action N} {reply : Reply PredictXError Value}
    (hstep : Step w a reply w') (hpaused : w.market.isPaused = true) :
    ¬ TakesIn (⟨w, a, reply, w'⟩ : Transaction N) := by
  have hnot : w.market.isPaused ≠ false := by simp [hpaused]
  rintro ⟨signatures, op, value, rfl, rfl, hop⟩
  cases hstep with
  | rejected failed => exact failed value rfl
  | market committed =>
      cases committed with
      | setOracle notPaused => exact hnot notPaused
      | cancelPoll notPaused => exact hnot notPaused
      | createPoll notPaused => exact hnot notPaused
      | stake _ notPaused => exact hnot notPaused
      | _ => exact hop

theorem movesOnlyRefunds_step {w w' : World N} {a : Action N} {reply : Reply PredictXError Value}
    (hcons : Consistent N.market w.market) (hstep : Step w a reply w')
    (hpaused : w.market.isPaused = true) :
    MovesOnlyRefunds (⟨w, a, reply, w'⟩ : Transaction N) := by
  have hidle : ∀ token, marketBalance w token = marketBalance w token + 0 :=
    fun _ => (add_zero _).symm
  cases hstep with
  | rejected =>
      refine .inl ⟨rfl, fun token => ?_⟩
      cases a <;> simp [directReceipt]
  | outside => exact .inl ⟨rfl, fun token => (add_sub_cancel _ _).symm⟩
  | market committed =>
      cases committed with
      | stake _ notPaused =>
          rw [hpaused] at notPaused
          simp at notPaused
      | @emergencyWithdraw user _ token pollId _ record _ _ _ _ _ _ staked token_found transferred =>
          have not_self := (hcons.record _ _ _ staked).not_self
          refine .inr ⟨pollId, user, record.amount, token, rfl, N.transfer_nonneg transferred,
            token_found, rfl, fun token' => ?_⟩
          change N.balance _ token' N.market = N.balance w.tokens token' N.market - _
          rw [N.transfer_balance transferred, callEnv, moved_src (Ne.symm not_self)]
          split <;> omega
      | _ => exact .inl ⟨rfl, hidle⟩
  | _ => exact .inl ⟨rfl, hidle⟩

theorem paused_configured (x : Execution N) (h : x.final.market.isPaused = true) :
    ∃ admin, x.final.market.admin = some admin := by
  refine invariant_final (P := fun w : World N => w.market.isPaused = true →
    ∃ admin, w.market.admin = some admin) x ?_ ?_ h
  · simp [genesis, Market.deployed, Market.isPaused]
  · intro w a reply w' _ hstep ih
    cases hstep with
    | market committed =>
        cases committed with
        | initializeMarket => exact fun _ => ⟨_, rfl⟩
        | pause admin_found => exact fun _ => ⟨_, admin_found⟩
        | unpause admin_found => exact fun _ => ⟨_, admin_found⟩
        | _ => exact ih
    | _ => exact ih

/-- Until it is unpaused, a paused market takes nothing in: polls, stakes,
flags, lists and oracle stay as they are, apart from the empty list of a new
match, and money moves by refunds alone.  What is refundable, and what a refund
does, never depends on the pause. -/
theorem pausing_freezes_intake (x : Execution N) :
    (x.final.market.isPaused = true → ∀ later,
      (∀ e ∈ trace step x.final later, ¬ Unpauses e) →
        Frozen x.final.market (x.andThen later).final.market ∧
          ∀ e ∈ trace step x.final later, ¬ TakesIn e ∧ MovesOnlyRefunds e) ∧
      ∀ flag signatures user pollId,
        (checkEmergencyEligible pollId (callEnv N.market signatures x.final.now)
              (withPaused flag x.final)).commit (withPaused flag x.final) =
            Prod.map id (withPaused flag)
              ((checkEmergencyEligible pollId (callEnv N.market signatures x.final.now)
                x.final).commit x.final) ∧
          step (withPaused flag x.final) (.market signatures (.emergencyWithdraw user pollId)) =
            Prod.map id (withPaused flag)
              (step x.final (.market signatures (.emergencyWithdraw user pollId))) := by
  constructor
  · intro hpaused later hrest
    obtain ⟨admin, hadmin⟩ := paused_configured x hpaused
    have hstart : Frozen x.final.market x.final.market ∧ Numbered x.final.market ∧
        x.final.market.admin = some admin := ⟨.start hpaused, numbered_run x, hadmin⟩
    have hkeep : ∀ {w : World N} {a reply w'}, Consistent N.market w.market → Step w a reply w' →
        ¬ Unpauses (⟨w, a, reply, w'⟩ : Transaction N) →
        Frozen x.final.market w.market ∧ Numbered w.market ∧ w.market.admin = some admin →
        Frozen x.final.market w'.market ∧ Numbered w'.market ∧ w'.market.admin = some admin := by
      rintro w a reply w' hcons hstep hkept ⟨hfrozen, hnumbered, hadmin'⟩
      have hset : w.market.admin ≠ none := by simp [hadmin']
      have hsame := congrArg Prod.fst (configuration_step hstep hadmin')
      exact ⟨frozen_step hstep hnumbered hset hkept hfrozen, numbered_step hcons hstep hnumbered,
        hsame.trans hadmin'⟩
    obtain ⟨hfinal, hbetween⟩ := invariant_run (consistent_run x) hstart hkeep hrest
    rw [Execution.final_andThen]
    refine ⟨hfinal.1, ?_⟩
    intro e he
    have hmem : e ∈ (x.andThen later).history := by
      rw [Execution.history_andThen]
      exact List.mem_append_right _ he
    have hstill := (hbetween e he).1.1.paused
    exact ⟨not_takesIn (Execution.step_of_mem hmem) hstill,
      movesOnlyRefunds_step (consistent_of_mem hmem) (Execution.step_of_mem hmem) hstill⟩
  · intro flag signatures user pollId
    have hcall : Respects (withPaused flag)
        ((MarketOp.emergencyWithdraw user pollId).execute : MarketCall N Value) :=
      respects_bind (respects_emergencyWithdraw user pollId) fun _ => respects_pure _
    constructor
    · exact (respects_checkEmergencyEligible pollId).commit _ x.final
    · exact hcall.commit _ x.final

section Sample

def haltedRun : Execution sampleNetwork := sampleRun [.market allSign (.pause ⟨1⟩)]

def newMatchCall : List (Action sampleNetwork) :=
  [.market allSign (.createMatch ⟨1⟩ "Away" "Home" "League" "Venue" 3000)]

/-- `create_match` does not look at the pause, and writes the list of the new
match. -/
theorem haltedRun_adds_list :
    haltedRun.final.market.isPaused = true ∧
      (∀ e ∈ trace step haltedRun.final newMatchCall, ¬ Unpauses e) ∧
      (haltedRun.andThen newMatchCall).final.market.matchPolls.lookup 2 ≠
        haltedRun.final.market.matchPolls.lookup 2 := by
  refine ⟨by decide +kernel, ?_, by decide +kernel⟩
  rintro e he ⟨signatures, admin, value, hinput, -⟩
  cases List.mem_singleton.mp he
  cases hinput

end Sample

end PredictX.Pausing
