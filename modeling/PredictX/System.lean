import PredictX.CommittedCalls
import PredictX.LabelledRuns

/-!
The ledger as a state machine.  Anyone may call the market or an oracle,
deploy an oracle, let time pass, or move tokens the market does not own, in
any order.
-/

namespace PredictX.System

open PredictX.CommittedCalls
open PredictX.FiniteStore
open PredictX.HostCall
open PredictX.HostCall.Call
open PredictX.LabelledRuns
open PredictX.MarketStorage
open PredictX.PredictionMarket
open PredictX.SharedTypes
open PredictX.SorobanHost
open PredictX.TokenContracts
open PredictX.VotingOracle

/-- Who authorises what in one transaction: `accepts c a` says that `a`, an
account or a calling contract, authorises the invocation of `c`.  The market
has no entry point that authorises anything on its own. -/
structure Signatures (N : Network) where
  accepts : Address → Address → Bool
  market_silent : ∀ contract, accepts contract N.market = false

/-- What everybody else does to the tokens: only the market's own transfer
calls take tokens from the market. -/
structure OutsideActivity (N : Network) where
  apply : N.State → N.State
  market_keeps : ∀ s token, N.balance s token N.market ≤ N.balance (apply s) token N.market

inductive Action (N : Network) where
  | market (signatures : Signatures N) (op : MarketOp)
  | oracle (signatures : Signatures N) (oracleId : Address) (op : OracleOp)
  | deployOracle (oracleId : Address)
  | elapse (seconds : ℕ)
  | outside (activity : OutsideActivity N)

variable {N : Network}

def callEnv (contract : Address) (signatures : Signatures N) (now : ℕ) : Env where
  contract := contract
  invoker := none
  timestamp := now
  signed := signatures.accepts

/-- One transaction.  A call that does not return normally is rolled back. -/
def step (w : World N) : Action N → Reply PredictXError Value × World N
  | .market signatures op => (op.execute (callEnv N.market signatures w.now) w).commit w
  | .oracle signatures oracleId op =>
      match w.oracles.lookup oracleId with
      | none => (.trap none, w)
      | some storage =>
          match (op.execute (callEnv oracleId signatures w.now) storage).commit storage with
          | (.ok _, storage') =>
              (.ok .unit, { w with oracles := w.oracles.insert oracleId storage' })
          -- The oracle's own storage is rolled back with the rest of the ledger.
          | (.error reason, _) => (.error reason, w)
          | (.trap passedOn, _) => (.trap passedOn, w)
  | .deployOracle oracleId =>
      if oracleId = N.market ∨ oracleId ∈ w.oracles then (.trap none, w)
      else (.ok .unit, { w with oracles := w.oracles.insert oracleId .deployed })
  | .elapse seconds => (.ok .unit, { w with now := w.now + seconds })
  | .outside activity => (.ok .unit, { w with tokens := activity.apply w.tokens })

def genesis (N : Network) (now : ℕ) (tokens : N.State) : World N where
  now := now
  market := .deployed
  oracles := ∅
  tokens := tokens
  events := []

abbrev Transaction (N : Network) := Entry (World N) (Action N) (Reply PredictXError Value)

/-- A run of the ledger from the deployment of the market: the time and the
token balances it starts with, and the transactions in order. -/
structure Execution (N : Network) where
  start : ℕ
  tokens : N.State
  actions : List (Action N)

def Execution.final (x : Execution N) : World N :=
  run step (genesis N x.start x.tokens) x.actions

def Execution.history (x : Execution N) : List (Transaction N) :=
  trace step (genesis N x.start x.tokens) x.actions

def Execution.andThen (x : Execution N) (later : List (Action N)) : Execution N :=
  { x with actions := x.actions ++ later }

def unsigned (N : Network) : Signatures N where
  accepts := fun _ _ => false
  market_silent := fun _ => rfl

/-- The reply of a view of the market; nobody has to sign. -/
def query {α : Type} (w : World N) (view : MarketCall N α) : Reply PredictXError α :=
  ((view (callEnv N.market (unsigned N) w.now) w).commit w).1

inductive Step (w : World N) : Action N → Reply PredictXError Value → World N → Prop where
  | rejected {a : Action N} {reply : Reply PredictXError Value}
      (failed : ∀ value, reply ≠ .ok value) : Step w a reply w
  | market {signatures : Signatures N} {op : MarketOp} {value : Value} {w' : World N}
      (committed : Committed (callEnv N.market signatures w.now) w op value w') :
      Step w (.market signatures op) (.ok value) w'
  | initializeOracle {signatures : Signatures N} {oracleId admin : Address}
      {storage : OracleStorage}
      (deployed : w.oracles.lookup oracleId = some storage)
      (fresh : storage.admin = none)
      (authorised : signatures.accepts oracleId admin = true) :
      Step w (.oracle signatures oracleId (.initializeOracle admin)) (.ok .unit)
        { w with oracles := w.oracles.insert oracleId { storage with admin := some admin } }
  | setPollStatus {signatures : Signatures N} {oracleId admin : Address} {pollId : ℕ}
      {status : PollStatus} {storage : OracleStorage}
      (deployed : w.oracles.lookup oracleId = some storage)
      (admin_found : storage.admin = some admin)
      (authorised : signatures.accepts oracleId admin = true) :
      Step w (.oracle signatures oracleId (.setPollStatus pollId status)) (.ok .unit)
        { w with
          oracles := w.oracles.insert oracleId (storage.recorded pollId ⟨status, w.now⟩) }
  | deployOracle {oracleId : Address} (other : oracleId ≠ N.market)
      (fresh : w.oracles.lookup oracleId = none) :
      Step w (.deployOracle oracleId) (.ok .unit)
        { w with oracles := w.oracles.insert oracleId .deployed }
  | elapse {seconds : ℕ} :
      Step w (.elapse seconds) (.ok .unit) { w with now := w.now + seconds }
  | outside {activity : OutsideActivity N} :
      Step w (.outside activity) (.ok .unit) { w with tokens := activity.apply w.tokens }

theorem callEnv_authorises {contract address : Address} {signatures : Signatures N} {now : ℕ} :
    (callEnv contract signatures now).authorises address =
      signatures.accepts contract address := by
  simp [Env.authorises, callEnv]

theorem signer_ne_market {contract address : Address} {signatures : Signatures N} {now : ℕ}
    (h : (callEnv contract signatures now).authorises address = true) : address ≠ N.market := by
  rintro rfl
  rw [callEnv_authorises, signatures.market_silent] at h
  simp at h

theorem step_market {w w' : World N} {signatures : Signatures N} {op : MarketOp} {value : Value} :
    step w (.market signatures op) = (.ok value, w') ↔
      Returns op.execute (callEnv N.market signatures w.now) w value w' :=
  commit_eq_ok

theorem query_eq_ok {α : Type} {w : World N} {view : MarketCall N α} {a : α} :
    query w view = .ok a ↔
      ∃ w', Returns view (callEnv N.market (unsigned N) w.now) w a w' := by
  unfold query Returns
  cases view (callEnv N.market (unsigned N) w.now) w <;> simp [Outcome.commit]

theorem committed_of_ok {w : World N} {signatures : Signatures N} {op : MarketOp} {value : Value}
    (h : (step w (.market signatures op)).1 = .ok value) :
    ∃ w', Committed (callEnv N.market signatures w.now) w op value w' :=
  ⟨_, committed_of_returns (step_market.mp (Prod.ext h rfl))⟩

theorem step_cases (w : World N) (a : Action N) : Step w a (step w a).1 (step w a).2 := by
  cases a with
  | market signatures op =>
      rcases commit_cases op.execute (callEnv N.market signatures w.now) w with
        ⟨value, w', hcommit, hreturns⟩ | ⟨hsame, hfailed⟩
      · have hstep : step w (.market signatures op) = (.ok value, w') := hcommit
        rw [hstep]
        exact .market (committed_of_returns hreturns)
      · have hstep : (step w (.market signatures op)).2 = w := hsame
        rw [hstep]
        exact .rejected hfailed
  | oracle signatures oracleId op =>
      cases hdeployed : w.oracles.lookup oracleId with
      | none =>
          simp only [step, hdeployed]
          exact .rejected (by simp)
      | some storage =>
          rcases commit_cases op.execute (callEnv oracleId signatures w.now) storage with
            ⟨value, storage', hcommit, hreturns⟩ | ⟨_, hfailed⟩
          · simp only [step, hdeployed, hcommit]
            cases op with
            | initializeOracle admin =>
                obtain ⟨hfresh, hsigned, rfl⟩ := initializeOracle_returns.mp hreturns
                rw [callEnv_authorises] at hsigned
                exact .initializeOracle hdeployed hfresh hsigned
            | setPollStatus pollId status =>
                obtain ⟨admin, hadmin, hsigned, rfl⟩ := setPollStatus_returns.mp hreturns
                rw [callEnv_authorises] at hsigned
                exact .setPollStatus hdeployed hadmin hsigned
          · simp only [step, hdeployed]
            split
            · rename_i hcommit
              rw [hcommit] at hfailed
              exact absurd rfl (hfailed _)
            · exact .rejected (by simp)
            · exact .rejected (by simp)
  | deployOracle oracleId =>
      simp only [step]
      split
      · exact .rejected (by simp)
      · rename_i hfresh
        rw [not_or, ← Finmap.lookup_eq_none] at hfresh
        exact .deployOracle hfresh.1 hfresh.2
  | elapse seconds => exact .elapse
  | outside activity => exact .outside

theorem Step.now_le {w w' : World N} {a : Action N} {reply : Reply PredictXError Value}
    (h : Step w a reply w') : w.now ≤ w'.now := by
  cases h with
  | market committed => cases committed <;> exact le_rfl
  | elapse => exact Nat.le_add_right _ _
  | _ => exact le_rfl

theorem Step.unchanged {w w' : World N} {a : Action N} {reply : Reply PredictXError Value}
    (h : Step w a reply w') (hfailed : ¬ ∃ value, reply = .ok value) : w' = w := by
  cases h with
  | rejected => rfl
  | _ => exact absurd ⟨_, rfl⟩ hfailed

theorem Execution.final_andThen (x : Execution N) (later : List (Action N)) :
    (x.andThen later).final = run step x.final later :=
  run_append x.actions later

theorem Execution.history_andThen (x : Execution N) (later : List (Action N)) :
    (x.andThen later).history = x.history ++ trace step x.final later :=
  trace_append x.actions later

/-- What holds at the deployment and is kept by every transaction holds after
every run; it may speak about the transactions so far. -/
theorem Execution.induction {P : List (Transaction N) → World N → Prop} (x : Execution N)
    (hstart : P [] (genesis N x.start x.tokens))
    (hstep : ∀ h w a, P h w → P (h ++ [entry step w a]) (step w a).2) :
    P x.history x.final :=
  run_induction hstart hstep x.actions

theorem Execution.exists_of_mem {x : Execution N} {e : Transaction N} (h : e ∈ x.history) :
    ∃ before after, x.actions = before ++ e.input :: after ∧
      e.before = ({ x with actions := before } : Execution N).final ∧
      e = entry step e.before e.input :=
  exists_of_mem_trace h

theorem Execution.input_of_mem {x : Execution N} {e : Transaction N} (h : e ∈ x.history) :
    e.input ∈ x.actions := by
  obtain ⟨before, after, hactions, -⟩ := x.exists_of_mem h
  rw [hactions]
  exact List.mem_append_right _ List.mem_cons_self

theorem Execution.step_of_mem {x : Execution N} {e : Transaction N} (h : e ∈ x.history) :
    Step e.before e.input e.output e.after := by
  obtain ⟨before, after, -, -, he⟩ := exists_of_mem_trace h
  have hstep := step_cases e.before e.input
  rw [he]
  exact hstep

theorem payment_keeps {src : Address} (other : src ≠ N.market) (token dst : Address)
    (amount : ℤ) (s : N.State) (token' : Address) :
    N.balance s token' N.market ≤
      N.balance ((N.transfer s token true src dst amount).getD s) token' N.market := by
  cases htransfer : N.transfer s token true src dst amount with
  | none => exact le_rfl
  | some s' =>
      have hamount := N.transfer_nonneg htransfer
      rw [Option.getD_some, N.transfer_balance htransfer, moved, if_neg (Ne.symm other)]
      split
      · split <;> omega
      · omega

/-- A transfer between accounts, which may send tokens to the market. -/
def payment (token src dst : Address) (amount : ℤ) (other : src ≠ N.market) :
    OutsideActivity N where
  apply := fun s => (N.transfer s token true src dst amount).getD s
  market_keeps := payment_keeps other token dst amount

section Sample

/-- A ledger to run the market on: store-backed tokens and the market at
address 0. -/
def sampleNetwork : Network := storeNetwork ⟨0⟩

def allSign : Signatures sampleNetwork where
  accepts := fun _ address => decide (address ≠ ⟨0⟩)
  market_silent := by
    intro contract
    rfl

def sampleTokens : sampleNetwork.State :=
  ((∅ : Store (Address × Address) ℕ).insert (⟨3⟩, ⟨5⟩) 50000000).insert (⟨3⟩, ⟨6⟩) 50000000

/-- The admin 1 sets up the oracle 2, the market and a match, on which 5
creates a poll that locks at time 1000. -/
def sampleSetup (signatures : Signatures N) : List (Action N) :=
  [.deployOracle ⟨2⟩, .oracle signatures ⟨2⟩ (.initializeOracle ⟨1⟩),
    .market signatures (.initializeMarket ⟨1⟩ ⟨2⟩ ⟨3⟩ ⟨4⟩ 500),
    .market signatures (.createMatch ⟨1⟩ "Home" "Away" "League" "Venue" 2000),
    .market signatures (.createPoll ⟨5⟩ 1 "Goal in the first half?" .teamEvent 1000)]

def sampleRun (later : List (Action sampleNetwork)) : Execution sampleNetwork where
  start := 100
  tokens := sampleTokens
  actions := sampleSetup allSign ++ later

end Sample

end PredictX.System
