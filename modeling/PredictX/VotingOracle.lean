import PredictX.FiniteStore
import PredictX.SorobanHost

namespace PredictX.VotingOracle

open PredictX.FiniteStore
open PredictX.HostCall
open PredictX.HostCall.Call
open PredictX.SharedTypes
open PredictX.SorobanHost

structure StoredPollStatus where
  status : PollStatus
  updatedAt : ℕ
  deriving DecidableEq, Repr

structure OracleStorage where
  admin : Option Address
  pollStatus : Store ℕ StoredPollStatus

def OracleStorage.deployed : OracleStorage where
  admin := none
  pollStatus := ∅

abbrev OracleCall := Call Env OracleStorage PredictXError

def getAdmin : OracleCall Address := do
  let admin ← load (·.admin)
  okOr admin .notInitialized

def initializeOracle (admin : Address) : OracleCall Unit := do
  let stored ← load (·.admin)
  failIf (stored.isSome = true) .alreadyInitialized
  requireAuth admin
  store fun s => { s with admin := some admin }

def setPollStatus (pollId : ℕ) (status : PollStatus) : OracleCall Unit := do
  let admin ← getAdmin
  requireAuth admin
  let updatedAt ← timestamp
  store fun s => { s with pollStatus := s.pollStatus.insert pollId { status, updatedAt } }

def OracleStorage.pollStatusOf (s : OracleStorage) (pollId : ℕ) : PollStatus :=
  ((s.pollStatus.lookup pollId).map (·.status)).getD .active

/-- A poll the oracle has no record of was last updated at time zero. -/
def OracleStorage.updatedAtOf (s : OracleStorage) (pollId : ℕ) : ℕ :=
  ((s.pollStatus.lookup pollId).map (·.updatedAt)).getD 0

def getPollStatus (pollId : ℕ) : OracleCall PollStatus :=
  load (·.pollStatusOf pollId)

def getPollStatusUpdatedAt (pollId : ℕ) : OracleCall ℕ :=
  load (·.updatedAtOf pollId)

def OracleStorage.recorded (s : OracleStorage) (pollId : ℕ) (entry : StoredPollStatus) :
    OracleStorage :=
  { s with pollStatus := s.pollStatus.insert pollId entry }

inductive OracleOp where
  | initializeOracle (admin : Address)
  | setPollStatus (pollId : ℕ) (status : PollStatus)

def OracleOp.execute : OracleOp → OracleCall Unit
  | .initializeOracle admin => VotingOracle.initializeOracle admin
  | .setPollStatus pollId status => VotingOracle.setPollStatus pollId status

variable {env : Env} {s t : OracleStorage} {u : Unit}

theorem initializeOracle_returns {admin : Address} :
    Returns (initializeOracle admin) env s u t ↔
      s.admin = none ∧ env.authorises admin = true ∧ t = { s with admin := some admin } := by
  simp [initializeOracle, bind_returns, load_returns, failIf_returns, requireAuth_returns,
    store_returns]

theorem getAdmin_returns {admin : Address} :
    Returns getAdmin env s admin t ↔ s.admin = some admin ∧ t = s :=
  load_okOr_returns

theorem setPollStatus_returns {pollId : ℕ} {status : PollStatus} :
    Returns (setPollStatus pollId status) env s u t ↔
      ∃ admin, s.admin = some admin ∧ env.authorises admin = true ∧
        t = s.recorded pollId ⟨status, env.timestamp⟩ := by
  simp [OracleStorage.recorded, setPollStatus, bind_returns, getAdmin_returns,
    requireAuth_returns, timestamp_returns, store_returns]

theorem reply_setPollStatus_uninitialized {pollId : ℕ} {status : PollStatus}
    (h : s.admin = none) : (setPollStatus pollId status env s).reply = .error .notInitialized := by
  apply reply_bind_error
  rw [getAdmin, reply_bind (load_returns.mpr ⟨rfl, rfl⟩), h]
  rfl

theorem reply_setPollStatus_unsigned {pollId : ℕ} {status : PollStatus} {admin : Address}
    (h : s.admin = some admin) (hunsigned : env.authorises admin = false) :
    (setPollStatus pollId status env s).reply = .trap none := by
  rw [setPollStatus, reply_bind (getAdmin_returns.mpr ⟨h, rfl⟩)]
  exact reply_bind_trap (reply_requireAuth hunsigned)

theorem pollStatusOf_recorded (pollId pollId' : ℕ) (entry : StoredPollStatus) :
    (s.recorded pollId entry).pollStatusOf pollId' =
      if pollId' = pollId then entry.status else s.pollStatusOf pollId' := by
  simp only [OracleStorage.pollStatusOf, OracleStorage.recorded, lookup_insert_eq]
  split <;> rfl

theorem updatedAtOf_recorded (pollId pollId' : ℕ) (entry : StoredPollStatus) :
    (s.recorded pollId entry).updatedAtOf pollId' =
      if pollId' = pollId then entry.updatedAt else s.updatedAtOf pollId' := by
  simp only [OracleStorage.updatedAtOf, OracleStorage.recorded, lookup_insert_eq]
  split <;> rfl

end PredictX.VotingOracle
