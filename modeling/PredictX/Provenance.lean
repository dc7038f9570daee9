import PredictX.EmergencyWindow

namespace PredictX.Provenance

open PredictX.Bookkeeping
open PredictX.CommittedCalls
open PredictX.EmergencyWindow
open PredictX.FiniteStore
open PredictX.HostCall
open PredictX.LabelledRuns
open PredictX.MarketStorage
open PredictX.PredictionMarket
open PredictX.SharedTypes
open PredictX.SorobanHost
open PredictX.System
open PredictX.TokenContracts
open PredictX.VotingOracle

variable {N : Network}

/-- An accepted call of the market that `signer` signed. -/
def SignedCall (signer : Address) (op : MarketOp) (e : Transaction N) : Prop :=
  ∃ signatures value, e.input = .market signatures op ∧ e.output = .ok value ∧
    signatures.accepts N.market signer = true

def SignedOracleCall (oracleId signer : Address) (op : OracleOp) (e : Transaction N) : Prop :=
  ∃ signatures value, e.input = .oracle signatures oracleId op ∧ e.output = .ok value ∧
    signatures.accepts oracleId signer = true

/-- The admin `signer` of the market made it use the oracle. -/
def Configures (oracleId signer : Address) (e : Transaction N) : Prop :=
  SignedCall signer (.setOracle oracleId) e ∨
    ∃ tokenAddress treasuryAddress platformFeeBps, SignedCall signer
      (.initializeMarket signer oracleId tokenAddress treasuryAddress platformFeeBps) e

/-- The admin `signer` of the oracle gave the poll its status, in a call of his
own or by signing the oracle's part of a cancellation. -/
def Decides (oracleId signer : Address) (pollId : ℕ) (status : PollStatus)
    (e : Transaction N) : Prop :=
  SignedOracleCall oracleId signer (.setPollStatus pollId status) e ∨
    status = .cancelled ∧ e.before.market.votingOracle = some oracleId ∧
      ∃ signatures value admin, e.input = .market signatures (.cancelPoll admin pollId) ∧
        e.output = .ok value ∧ signatures.accepts N.market admin = true ∧
        signatures.accepts oracleId signer = true

/-- What an oracle stores goes back to calls its admin signed. -/
structure OracleAccounted (history : List (Transaction N)) (oracleId : Address)
    (s : OracleStorage) : Prop where
  admin : ∀ admin, s.admin = some admin →
    ∃ e ∈ history, SignedOracleCall oracleId admin (.initializeOracle admin) e
  status : ∀ pollId record, s.pollStatus.lookup pollId = some record →
    ∃ admin, s.admin = some admin ∧ ∃ e ∈ history, e.before.now = record.updatedAt ∧
      Decides oracleId admin pollId record.status e

/-- What the market stores goes back to calls signed by the one concerned. -/
structure MarketAccounted (history : List (Transaction N)) (m : Market) : Prop where
  oracle : ∀ oracleId, m.votingOracle = some oracleId →
    ∃ admin, m.admin = some admin ∧ ∃ e ∈ history, Configures oracleId admin e
  poll : ∀ pollId poll, m.polls.lookup pollId = some poll →
    ∃ e ∈ history, e.before.now = poll.createdAt ∧ SignedCall poll.creator
      (.createPoll poll.creator poll.matchId poll.question poll.category poll.lockTime) e
  stake : ∀ pollId user record, m.stakes.lookup (pollId, user) = some record →
    ∃ e ∈ history, e.before.now = record.stakedAt ∧
      SignedCall user (.stake user pollId record.amount record.side) e
  claim : ∀ pollId user, m.hasEmergencyClaimed pollId user = true →
    ∃ e ∈ history, SignedCall user (.emergencyWithdraw user pollId) e

section Steps

variable {history : List (Transaction N)} {e : Transaction N}

theorem exists_earlier {P : Transaction N → Prop} (h : ∃ e' ∈ history, P e') :
    ∃ e' ∈ history ++ [e], P e' := by
  obtain ⟨e', hmem, hP⟩ := h
  exact ⟨e', List.mem_append_left _ hmem, hP⟩

theorem exists_latest {P : Transaction N → Prop} (h : P e) : ∃ e' ∈ history ++ [e], P e' :=
  ⟨e, List.mem_append_right _ (List.mem_singleton_self e), h⟩

theorem OracleAccounted.later {oracleId : Address} {s : OracleStorage}
    (h : OracleAccounted history oracleId s) : OracleAccounted (history ++ [e]) oracleId s where
  admin := fun admin hadmin => exists_earlier (h.admin admin hadmin)
  status := by
    intro pollId record hrecord
    obtain ⟨admin, hadmin, hdecided⟩ := h.status pollId record hrecord
    exact ⟨admin, hadmin, exists_earlier hdecided⟩

theorem OracleAccounted.recorded {oracleId admin : Address} {s : OracleStorage} {pollId : ℕ}
    {status : PollStatus} (h : OracleAccounted history oracleId s) (hadmin : s.admin = some admin)
    (hdecides : Decides oracleId admin pollId status e) :
    OracleAccounted (history ++ [e]) oracleId (s.recorded pollId ⟨status, e.before.now⟩) where
  admin := fun admin hadmin => exists_earlier (h.admin admin hadmin)
  status := by
    intro pollId' record hrecord
    rw [OracleStorage.recorded, lookup_insert_eq] at hrecord
    split at hrecord
    · rename_i heq
      cases hrecord
      rw [heq]
      exact ⟨admin, hadmin, exists_latest ⟨rfl, hdecides⟩⟩
    · exact h.later.status pollId' record hrecord

theorem OracleAccounted.signer {oracleId admin : Address} {s : OracleStorage}
    (h : OracleAccounted history oracleId s) (hadmin : s.admin = some admin) :
    admin ≠ N.market := by
  obtain ⟨_, -, signatures, _, -, -, hsigned⟩ := h.admin admin hadmin
  rintro rfl
  rw [signatures.market_silent] at hsigned
  simp at hsigned

theorem MarketAccounted.later {m : Market} (h : MarketAccounted history m) :
    MarketAccounted (history ++ [e]) m where
  oracle := by
    intro oracleId horacle
    obtain ⟨admin, hadmin, hconfigured⟩ := h.oracle oracleId horacle
    exact ⟨admin, hadmin, exists_earlier hconfigured⟩
  poll := fun pollId poll hpoll => exists_earlier (h.poll pollId poll hpoll)
  stake := fun pollId user record hrecord => exists_earlier (h.stake pollId user record hrecord)
  claim := fun pollId user hclaimed => exists_earlier (h.claim pollId user hclaimed)

end Steps

end PredictX.Provenance
