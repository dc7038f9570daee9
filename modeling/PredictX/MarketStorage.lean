import PredictX.TokenContracts
import PredictX.VotingOracle

/-!
The storage of the PredictionMarket contract, one field for each kind of
`DataKey`, the ledger state its calls act on, and the storage helpers the
entry points share.
-/

namespace PredictX.MarketStorage

open PredictX.FiniteStore
open PredictX.HostCall
open PredictX.HostCall.Call
open PredictX.SharedTypes
open PredictX.SorobanHost
open PredictX.TokenContracts
open PredictX.VotingOracle

/-- Instance entries first, then the persistent ones.  A key that was never
written is `none`, or absent from its store. -/
structure Market where
  admin : Option Address
  votingOracle : Option Address
  paused : Option Bool
  tokenAddress : Option Address
  treasuryAddress : Option Address
  platformFeeBps : Option ℕ
  platformStats : Option PlatformStats
  initialized : Option Bool
  nextMatchId : Option ℕ
  nextPollId : Option ℕ
  stakes : Store (ℕ × Address) Stake
  emergencyClaimed : Store (ℕ × Address) Bool
  matchRecords : Store ℕ Match
  matchPolls : Store ℕ (List ℕ)
  polls : Store ℕ Poll
  userStakes : Store Address (List ℕ)
  hasStaked : Store (ℕ × Address) Bool

/-- The storage of a market nobody has called yet. -/
def Market.deployed : Market where
  admin := none
  votingOracle := none
  paused := none
  tokenAddress := none
  treasuryAddress := none
  platformFeeBps := none
  platformStats := none
  initialized := none
  nextMatchId := none
  nextPollId := none
  stakes := ∅
  emergencyClaimed := ∅
  matchRecords := ∅
  matchPolls := ∅
  polls := ∅
  userStakes := ∅
  hasStaked := ∅

/-- Pool state returned by `get_pool_info`. -/
structure PoolInfo where
  yesPool : ℤ
  noPool : ℤ
  yesCount : ℕ
  noCount : ℕ
  deriving DecidableEq, Repr

/-- The events the market publishes, with their topics and data. -/
inductive Event where
  | contractPaused
  | contractUnpaused
  | pollCancelled (pollId : ℕ)
  | emergencyWithdrawal (pollId : ℕ) (user : Address) (amount : ℤ)
  | pollCreated (pollId : ℕ)
  | stakePlaced (pollId : ℕ) (staker : Address) (amount : ℤ) (side : StakeSide)
  | matchCreated (matchId : ℕ) (newMatch : Match)
  | matchUpdated (matchId : ℕ) (updated : Match)
  | matchFinished (matchId : ℕ)
  deriving DecidableEq, Repr

/-- The ledger: the clock, the market, the deployed oracles by address, the
token contracts, and the events published so far. -/
structure World (N : Network) where
  now : ℕ
  market : Market
  oracles : Store Address OracleStorage
  tokens : N.State
  events : List Event

def Configured {N : Network} (w : World N) (P : OracleStorage → Prop) : Prop :=
  ∃ oracleId storage, w.market.votingOracle = some oracleId ∧
    w.oracles.lookup oracleId = some storage ∧ P storage

abbrev MarketCall (N : Network) := Call Env (World N) PredictXError

section Access

variable {N : Network}

def setMarket (f : Market → Market) : MarketCall N Unit :=
  store fun w => { w with market := f w.market }

def publish (event : Event) : MarketCall N Unit :=
  store fun w => { w with events := w.events ++ [event] }

/-- Call an entry point of the VotingOracle at an address.  Unless the oracle
exists and returns normally the market's call is aborted, with the oracle's
error if there is one. -/
def callOracle {α : Type} (oracleId : Address) (entry : OracleCall α) : MarketCall N α :=
  fun env w =>
    match w.oracles.lookup oracleId with
    | none => .trap none
    | some storage =>
        match entry (env.callee oracleId) storage with
        | .ok a storage' n =>
            .ok a { w with oracles := w.oracles.insert oracleId storage' } n
        | .error reason _ _ => .trap (some reason)
        | .trap passedOn => .trap passedOn

def getAdmin : MarketCall N Address := do
  let admin ← load (·.market.admin)
  okOr admin .notInitialized

def getOracle : MarketCall N Address := do
  let oracle ← load (·.market.votingOracle)
  okOr oracle .notInitialized

def Market.isPaused (m : Market) : Bool := m.paused.getD false

/-- The guard reports a paused contract with the emergency error, not with
`contractPaused`. -/
def ensureNotPaused : MarketCall N Unit := do
  let paused ← load (·.market.isPaused)
  failIf (paused = true) .emergencyWithdrawNotAllowed

def Market.stats (m : Market) : PlatformStats :=
  m.platformStats.getD
    { totalValueLocked := 0
      totalPollsCreated := 0
      totalStakesPlaced := 0
      totalPayouts := 0
      totalUsers := 0 }

def getPlatformStats : MarketCall N PlatformStats := load (·.market.stats)

def setPlatformStats (stats : PlatformStats) : MarketCall N Unit :=
  setMarket fun m => { m with platformStats := some stats }

def loadStake (pollId : ℕ) (user : Address) : MarketCall N (Option Stake) :=
  load (·.market.stakes.lookup (pollId, user))

def Market.hasEmergencyClaimed (m : Market) (pollId : ℕ) (user : Address) : Bool :=
  (m.emergencyClaimed.lookup (pollId, user)).getD false

def Market.userStakesOf (m : Market) (user : Address) : List ℕ :=
  (m.userStakes.lookup user).getD []

def setEmergencyClaimed (pollId : ℕ) (user : Address) : MarketCall N Unit :=
  setMarket fun m =>
    { m with emergencyClaimed := m.emergencyClaimed.insert (pollId, user) true }

end Access

section Returns

variable {N : Network} {env : Env} {w w' : World N} {u : Unit}

theorem setMarket_returns {f : Market → Market} :
    Returns (setMarket f : MarketCall N Unit) env w u w' ↔
      w' = { w with market := f w.market } := by
  simp [setMarket, store_returns]

theorem publish_returns {event : Event} :
    Returns (publish event : MarketCall N Unit) env w u w' ↔
      w' = { w with events := w.events ++ [event] } := by
  simp [publish, store_returns]

theorem callOracle_returns {α : Type} {oracleId : Address} {entry : OracleCall α} {a : α} :
    Returns (callOracle oracleId entry : MarketCall N α) env w a w' ↔
      ∃ storage storage', w.oracles.lookup oracleId = some storage ∧
        Returns entry (env.callee oracleId) storage a storage' ∧
        w' = { w with oracles := w.oracles.insert oracleId storage' } := by
  unfold Returns callOracle
  cases w.oracles.lookup oracleId with
  | none => simp
  | some storage =>
      dsimp only
      cases hentry : entry (env.callee oracleId) storage with
      | ok b storage' m => simp [hentry, eq_comm]
      | error => simp [hentry]
      | trap => simp [hentry]

theorem callOracle_load_returns {α : Type} {oracleId : Address} {f : OracleStorage → α} {a : α} :
    Returns (callOracle oracleId (load f) : MarketCall N α) env w a w' ↔
      ∃ storage, w.oracles.lookup oracleId = some storage ∧ a = f storage ∧ w' = w := by
  rw [callOracle_returns]
  constructor
  · rintro ⟨storage, storage', hstorage, hentry, rfl⟩
    obtain ⟨rfl, rfl⟩ := load_returns.mp hentry
    exact ⟨_, hstorage, rfl, by rw [insert_lookup_self hstorage]⟩
  · rintro ⟨storage, hstorage, rfl, rfl⟩
    exact ⟨storage, storage, hstorage, load_returns.mpr ⟨rfl, rfl⟩,
      by rw [insert_lookup_self hstorage]⟩

theorem getAdmin_returns {admin : Address} :
    Returns (getAdmin : MarketCall N Address) env w admin w' ↔
      w.market.admin = some admin ∧ w' = w :=
  load_okOr_returns

theorem getOracle_returns {oracle : Address} :
    Returns (getOracle : MarketCall N Address) env w oracle w' ↔
      w.market.votingOracle = some oracle ∧ w' = w :=
  load_okOr_returns

theorem ensureNotPaused_returns :
    Returns (ensureNotPaused : MarketCall N Unit) env w u w' ↔
      w.market.isPaused = false ∧ w' = w := by
  simp [ensureNotPaused, bind_returns, load_returns, failIf_returns]

theorem reply_ensureNotPaused (h : w.market.isPaused = true) :
    (ensureNotPaused env w : Outcome _ _ _).reply = .error .emergencyWithdrawNotAllowed := by
  rw [ensureNotPaused, reply_bind (load_returns.mpr ⟨rfl, rfl⟩)]
  exact reply_failIf h

theorem reply_ensureNotPaused_else {α β : Type} {f : Unit → MarketCall N α} {g : α → β}
    {rest : Reply PredictXError β}
    (h : w.market.isPaused = false → (f () env w).reply.map g = rest) :
    ((ensureNotPaused >>= f) env w).reply.map g =
      if w.market.isPaused = true then .error .emergencyWithdrawNotAllowed else rest :=
  reply_error_else (u := ()) reply_ensureNotPaused
    (fun hpaused => ensureNotPaused_returns.mpr ⟨Bool.eq_false_of_not_eq_true hpaused, rfl⟩)
    (fun hpaused => h (Bool.eq_false_of_not_eq_true hpaused))

theorem reply_getOracle (h : w.market.votingOracle = none) :
    (getOracle env w : Outcome _ _ _).reply = .error .notInitialized := by
  rw [getOracle, reply_bind (load_returns.mpr ⟨rfl, rfl⟩), h]
  rfl

theorem reply_callOracle {α : Type} {oracleId : Address} {entry : OracleCall α}
    (h : w.oracles.lookup oracleId = none) :
    (callOracle oracleId entry env w : Outcome _ _ _).reply = .trap none := by
  rw [callOracle, h]
  rfl

section Failures

variable {α : Type} {oracleId : Address} {entry : OracleCall α} {storage : OracleStorage}

theorem reply_callOracle_error {reason : PredictXError}
    (hdeployed : w.oracles.lookup oracleId = some storage)
    (hfailed : (entry (env.callee oracleId) storage).reply = .error reason) :
    (callOracle oracleId entry env w : Outcome _ _ _).reply = .trap (some reason) := by
  rw [callOracle, hdeployed]
  dsimp only
  cases hentry : entry (env.callee oracleId) storage <;> simp_all [Outcome.reply]

theorem reply_callOracle_trap {passedOn : Option PredictXError}
    (hdeployed : w.oracles.lookup oracleId = some storage)
    (hfailed : (entry (env.callee oracleId) storage).reply = .trap passedOn) :
    (callOracle oracleId entry env w : Outcome _ _ _).reply = .trap passedOn := by
  rw [callOracle, hdeployed]
  dsimp only
  cases hentry : entry (env.callee oracleId) storage <;> simp_all [Outcome.reply]

end Failures

theorem getPlatformStats_returns {stats : PlatformStats} :
    Returns (getPlatformStats : MarketCall N PlatformStats) env w stats w' ↔
      stats = w.market.stats ∧ w' = w := by
  simp [getPlatformStats, load_returns]

theorem setPlatformStats_returns {stats : PlatformStats} :
    Returns (setPlatformStats stats : MarketCall N Unit) env w u w' ↔
      w' = { w with market := { w.market with platformStats := some stats } } := by
  simp [setPlatformStats, setMarket_returns]

end Returns

end PredictX.MarketStorage
