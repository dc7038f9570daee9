import PredictX.MarketStorage

namespace PredictX.Matches

open PredictX.HostCall.Call
open PredictX.MarketStorage
open PredictX.SharedTypes
open PredictX.SorobanHost
open PredictX.TokenContracts

variable {N : Network}

/-- Here the caller signs before it is compared with the stored admin. -/
def requireAdmin (caller : Address) : MarketCall N Unit := do
  requireAuth caller
  let admin ← getAdmin
  failIf (caller ≠ admin) .unauthorized

def createMatch (admin : Address) (homeTeam awayTeam league venue : String) (kickoffTime : ℕ) :
    MarketCall N ℕ := do
  requireAdmin admin
  let now ← timestamp
  failIf (kickoffTime ≤ now) .invalidLockTime
  let matchId ← load fun w => w.market.nextMatchId.getD 1
  let newMatch : Match :=
    { matchId, homeTeam, awayTeam, league, venue, kickoffTime
      createdBy := admin, isFinished := false }
  setMarket fun m => { m with matchRecords := m.matchRecords.insert matchId newMatch }
  setMarket fun m => { m with matchPolls := m.matchPolls.insert matchId [] }
  let nextMatchId ← checkedU64 (matchId + 1)
  setMarket fun m => { m with nextMatchId := some nextMatchId }
  publish (.matchCreated matchId newMatch)
  pure matchId

/-- A new kickoff time has to lie in the future. -/
def reschedule (m : Match) (now : ℕ) : Option ℕ → MarketCall N Match
  | none => pure m
  | some kt => do
      failIf (kt ≤ now) .invalidLockTime
      pure { m with kickoffTime := kt }

def updateMatch (admin : Address) (matchId : ℕ)
    (homeTeam awayTeam league venue : Option String) (kickoffTime : Option ℕ) :
    MarketCall N Match := do
  requireAdmin admin
  let stored ← load (·.market.matchRecords.lookup matchId)
  let m ← okOr stored .matchNotFound
  let now ← timestamp
  failIf (m.kickoffTime ≤ now) .matchAlreadyStarted
  let m : Match :=
    { m with
      homeTeam := homeTeam.getD m.homeTeam
      awayTeam := awayTeam.getD m.awayTeam
      league := league.getD m.league
      venue := venue.getD m.venue }
  let m ← reschedule m now kickoffTime
  setMarket fun market => { market with matchRecords := market.matchRecords.insert matchId m }
  publish (.matchUpdated matchId m)
  pure m

def finishMatch (admin : Address) (matchId : ℕ) : MarketCall N Unit := do
  requireAdmin admin
  let stored ← load (·.market.matchRecords.lookup matchId)
  let m ← okOr stored .matchNotFound
  let m : Match := { m with isFinished := true }
  setMarket fun market => { market with matchRecords := market.matchRecords.insert matchId m }
  publish (.matchFinished matchId)

def getMatch (matchId : ℕ) : MarketCall N Match := do
  let stored ← load (·.market.matchRecords.lookup matchId)
  okOr stored .matchNotFound

def getMatchPolls (matchId : ℕ) : MarketCall N (List ℕ) := do
  let stored ← load fun w => decide (matchId ∈ w.market.matchRecords)
  failIf (stored = false) .matchNotFound
  load fun w => (w.market.matchPolls.lookup matchId).getD []

def getMatchCount : MarketCall N ℕ :=
  load fun w => w.market.nextMatchId.getD 1 - 1

theorem requireAdmin_returns {env : Env} {w w' : World N} {caller : Address} {u : Unit} :
    Returns (requireAdmin caller : MarketCall N Unit) env w u w' ↔
      env.authorises caller = true ∧ w.market.admin = some caller ∧ w' = w := by
  simp only [requireAdmin, bind_returns, requireAuth_returns, getAdmin_returns, failIf_returns]
  constructor
  · rintro ⟨_, _, ⟨hauth, rfl⟩, admin, _, ⟨hadmin, rfl⟩, hcaller, rfl⟩
    rw [not_not.mp hcaller]
    exact ⟨not_not.mp hcaller ▸ hauth, hadmin, rfl⟩
  · rintro ⟨hauth, hadmin, rfl⟩
    exact ⟨(), _, ⟨hauth, rfl⟩, caller, _, ⟨hadmin, rfl⟩, by simp, rfl⟩

end PredictX.Matches
