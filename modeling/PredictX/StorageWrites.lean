import PredictX.ErrorReturns

namespace PredictX.StorageWrites

open PredictX.ErrorReturns
open PredictX.FiniteStore
open PredictX.Footprints
open PredictX.HostCall
open PredictX.HostCall.Call
open PredictX.MarketStorage
open PredictX.Matches
open PredictX.PredictionMarket
open PredictX.SharedTypes
open PredictX.SorobanHost
open PredictX.Staking
open PredictX.TokenContracts
open PredictX.TokenUtils
open PredictX.VotingOracle

variable {N : Network}

/-- The keys of the contract, the instance entries first. -/
inductive DataKey where
  | admin
  | votingOracle
  | paused
  | tokenAddress
  | treasuryAddress
  | platformFeeBps
  | platformStats
  | initialized
  | nextMatchId
  | nextPollId
  | stake (pollId : ℕ) (user : Address)
  | emergencyClaimed (pollId : ℕ) (user : Address)
  | matchRecord (matchId : ℕ)
  | matchPolls (matchId : ℕ)
  | poll (pollId : ℕ)
  | userStakes (user : Address)
  | hasStaked (pollId : ℕ) (user : Address)
  deriving DecidableEq

inductive StoredValue where
  | address (value : Address)
  | flag (value : Bool)
  | number (value : ℕ)
  | ids (value : List ℕ)
  | stats (value : PlatformStats)
  | stake (value : Stake)
  | matchRecord (value : Match)
  | poll (value : Poll)
  deriving DecidableEq

def entryOf (m : Market) : DataKey → Option StoredValue
  | .admin => m.admin.map .address
  | .votingOracle => m.votingOracle.map .address
  | .paused => m.paused.map .flag
  | .tokenAddress => m.tokenAddress.map .address
  | .treasuryAddress => m.treasuryAddress.map .address
  | .platformFeeBps => m.platformFeeBps.map .number
  | .platformStats => m.platformStats.map .stats
  | .initialized => m.initialized.map .flag
  | .nextMatchId => m.nextMatchId.map .number
  | .nextPollId => m.nextPollId.map .number
  | .stake pollId user => (m.stakes.lookup (pollId, user)).map .stake
  | .emergencyClaimed pollId user => (m.emergencyClaimed.lookup (pollId, user)).map .flag
  | .matchRecord matchId => (m.matchRecords.lookup matchId).map .matchRecord
  | .matchPolls matchId => (m.matchPolls.lookup matchId).map .ids
  | .poll pollId => (m.polls.lookup pollId).map .poll
  | .userStakes user => (m.userStakes.lookup user).map .ids
  | .hasStaked pollId user => (m.hasStaked.lookup (pollId, user)).map .flag

/-- One write of the contract's storage.  A value of another type than the
key's does not fit, and leaves the storage alone. -/
def put (m : Market) : DataKey → StoredValue → Market
  | .admin, .address value => { m with admin := some value }
  | .votingOracle, .address value => { m with votingOracle := some value }
  | .paused, .flag value => { m with paused := some value }
  | .tokenAddress, .address value => { m with tokenAddress := some value }
  | .treasuryAddress, .address value => { m with treasuryAddress := some value }
  | .platformFeeBps, .number value => { m with platformFeeBps := some value }
  | .platformStats, .stats value => { m with platformStats := some value }
  | .initialized, .flag value => { m with initialized := some value }
  | .nextMatchId, .number value => { m with nextMatchId := some value }
  | .nextPollId, .number value => { m with nextPollId := some value }
  | .stake pollId user, .stake value =>
      { m with stakes := m.stakes.insert (pollId, user) value }
  | .emergencyClaimed pollId user, .flag value =>
      { m with emergencyClaimed := m.emergencyClaimed.insert (pollId, user) value }
  | .matchRecord matchId, .matchRecord value =>
      { m with matchRecords := m.matchRecords.insert matchId value }
  | .matchPolls matchId, .ids value =>
      { m with matchPolls := m.matchPolls.insert matchId value }
  | .poll pollId, .poll value => { m with polls := m.polls.insert pollId value }
  | .userStakes user, .ids value => { m with userStakes := m.userStakes.insert user value }
  | .hasStaked pollId user, .flag value =>
      { m with hasStaked := m.hasStaked.insert (pollId, user) value }
  | _, _ => m

/-- The value has the type of the key. -/
def fits : DataKey → StoredValue → Bool
  | .admin, .address _ | .votingOracle, .address _ | .tokenAddress, .address _
  | .treasuryAddress, .address _ => true
  | .paused, .flag _ | .initialized, .flag _ | .emergencyClaimed .., .flag _
  | .hasStaked .., .flag _ => true
  | .platformFeeBps, .number _ | .nextMatchId, .number _ | .nextPollId, .number _ => true
  | .matchPolls _, .ids _ | .userStakes _, .ids _ => true
  | .platformStats, .stats _ | .stake .., .stake _ | .matchRecord _, .matchRecord _
  | .poll _, .poll _ => true
  | _, _ => false

theorem entryOf_put (m : Market) {key : DataKey} {value : StoredValue}
    (h : fits key value = true) : entryOf (put m key value) key = some value := by
  cases key <;> cases value <;> first
    | exact absurd h Bool.false_ne_true
    | rfl
    | simp [entryOf, put]

theorem entryOf_put_ne (m : Market) {key key' : DataKey} (value : StoredValue) (h : key' ≠ key) :
    entryOf (put m key value) key' = entryOf m key' := by
  fun_cases put m key value
  -- The entries of the other kinds do not look at what is written.
  all_goals cases key' <;> first
    | rfl
    | exact absurd rfl h
    | simp_all [entryOf]

/-- `Logs env x w keys n`: on the ledger `w` the call `x` writes the storage
under `keys`, in this order, and makes `n` writes outside of it, which are the
events it publishes and what the contracts it calls write. -/
inductive Logs (env : Env) : {α : Type} → MarketCall N α → World N → List DataKey → ℕ → Prop where
  | reads {α : Type} {x : MarketCall N α} {w : World N} (readOnly : ReadOnly x) :
      Logs env x w [] 0
  | put {w : World N} {key : DataKey} {value : StoredValue} (fits : fits key value = true) :
      Logs env (setMarket fun m => put m key value) w [key] 0
  | publish {w : World N} {event : Event} : Logs env (publish event) w [] 1
  | tokenTransfer {w : World N} {token src dst : Address} {amount : ℤ} :
      Logs env (tokenTransfer token src dst amount) w [] 1
  | callOracle {α : Type} {w : World N} {oracleId : Address} {entry : OracleCall α}
      {storage storage' : OracleStorage} {a : α} {n : ℕ}
      (deployed : w.oracles.lookup oracleId = some storage)
      (returned : entry (env.callee oracleId) storage = .ok a storage' n) :
      Logs env (callOracle oracleId entry) w [] n
  | bind {α β : Type} {x : MarketCall N α} {f : α → MarketCall N β} {w w' : World N} {a : α}
      {keys keys' : List DataKey} {m n : ℕ} (first : Logs env x w keys m)
      (returned : Returns x env w a w') (rest : Logs env (f a) w' keys' n) :
      Logs env (x >>= f) w (keys ++ keys') (m + n)

/-- What the writes of a call leave: an entry under each of the keys, and the
other entries as they were.  `k` counts all its writes. -/
structure Written (keys : List DataKey) (n k : ℕ) (m m' : Market) : Prop where
  present : ∀ key ∈ keys, (entryOf m' key).isSome = true
  elsewhere : ∀ key, key ∉ keys → entryOf m' key = entryOf m key
  counted : k = keys.length + n

theorem Written.of_eq {n k : ℕ} {m m' : Market} (hmarket : m' = m) (hcount : k = n) :
    Written [] n k m m' where
  present := fun _ hkey => absurd hkey List.not_mem_nil
  elsewhere := fun key _ => congrArg (entryOf · key) hmarket
  counted := hcount.trans (Nat.zero_add n).symm

theorem Written.append {keys keys' : List DataKey} {n n' k k' : ℕ} {m m' m'' : Market}
    (h : Written keys n k m m') (h' : Written keys' n' k' m' m'') :
    Written (keys ++ keys') (n + n') (k + k') m m'' where
  present := by
    intro key hkey
    by_cases hlast : key ∈ keys'
    · exact h'.present key hlast
    · rw [h'.elsewhere key hlast]
      exact h.present key ((List.mem_append.mp hkey).resolve_right hlast)
  elsewhere := by
    intro key hkey
    rw [List.mem_append, not_or] at hkey
    rw [h'.elsewhere key hkey.2, h.elsewhere key hkey.1]
  counted := by
    rw [List.length_append, h.counted, h'.counted]
    omega

theorem callOracle_ok {α : Type} {env : Env} {w w' : World N} {oracleId : Address}
    {entry : OracleCall α} {storage storage' : OracleStorage} {a b : α} {n k : ℕ}
    (deployed : w.oracles.lookup oracleId = some storage)
    (returned : entry (env.callee oracleId) storage = .ok a storage' n)
    (h : callOracle oracleId entry env w = .ok b w' k) : w'.market = w.market ∧ k = n := by
  rw [callOracle, deployed] at h
  dsimp only at h
  rw [returned] at h
  rcases Outcome.ok.inj h with ⟨-, rfl, rfl⟩
  exact ⟨rfl, rfl⟩

theorem tokenTransfer_ok {env : Env} {w w' : World N} {token src dst : Address} {amount : ℤ}
    {u : Unit} {k : ℕ} (h : tokenTransfer token src dst amount env w = .ok u w' k) :
    w'.market = w.market ∧ k = 1 := by
  unfold tokenTransfer at h
  simp only [bind_eq_ok] at h
  obtain ⟨_, _, _, _, hcontext, ⟨_, _, _, _, hload, h, rfl⟩, rfl⟩ := h
  obtain ⟨_, _, _, _, hpaid, hstore, rfl⟩ := h
  obtain ⟨rfl, rfl⟩ := readOnly_context.of_ok hcontext
  obtain ⟨rfl, rfl⟩ := (readOnly_load _).of_ok hload
  obtain ⟨rfl, rfl⟩ := (readOnly_orAbort _ _).of_ok hpaid
  rcases Outcome.ok.inj hstore with ⟨-, rfl, rfl⟩
  exact ⟨rfl, rfl⟩

/-- The log of a call is what it writes. -/
theorem Logs.written {α : Type} {env : Env} {x : MarketCall N α} {w : World N}
    {keys : List DataKey} {n : ℕ} (h : Logs env x w keys n) :
    ∀ {a w' k}, x env w = .ok a w' k → Written keys n k w.market w'.market := by
  induction h with
  | reads readOnly =>
      intro a w' k hout
      obtain ⟨rfl, rfl⟩ := readOnly.of_ok hout
      exact .of_eq rfl rfl
  | put fits =>
      intro a w' k hout
      rcases Outcome.ok.inj hout with ⟨-, rfl, rfl⟩
      refine ⟨?_, ?_, rfl⟩
      · intro key hkey
        rw [List.mem_singleton.mp hkey, entryOf_put _ fits]
        rfl
      · intro key hkey
        exact entryOf_put_ne _ _ (List.ne_of_not_mem_cons hkey)
  | publish =>
      intro a w' k hout
      rcases Outcome.ok.inj hout with ⟨-, rfl, rfl⟩
      exact .of_eq rfl rfl
  | tokenTransfer =>
      intro a w' k hout
      obtain ⟨hmarket, hcount⟩ := tokenTransfer_ok hout
      exact .of_eq hmarket hcount
  | callOracle deployed returned =>
      intro a w' k hout
      obtain ⟨hmarket, hcount⟩ := callOracle_ok deployed returned hout
      exact .of_eq hmarket hcount
  | bind first returned rest ihfirst ihrest =>
      intro b w' k hout
      obtain ⟨_, _, _, _, hx, hf, rfl⟩ := bind_eq_ok.mp hout
      obtain ⟨_, hx'⟩ := returned
      rcases Outcome.ok.inj (hx'.symm.trans hx) with ⟨rfl, rfl, rfl⟩
      exact (ihfirst hx).append (ihrest hf)

/-- If the call returns, it has made these writes. -/
def Traced (env : Env) {α : Type} (x : MarketCall N α) (w : World N) (keys : List DataKey)
    (n : ℕ) : Prop :=
  ∀ a w', Returns x env w a w' → Logs env x w keys n

namespace Traced

variable {env : Env} {α β : Type} {x : MarketCall N α} {f : α → MarketCall N β}
  {g : Unit → MarketCall N β} {w : World N} {keys : List DataKey} {n : ℕ}

theorem reads (hx : ReadOnly x) : Traced env x w [] 0 :=
  fun _ _ _ => .reads hx

theorem bind {keys' : List DataKey} {n' : ℕ} (hx : Traced env x w keys n)
    (hf : ∀ a w', Returns x env w a w' → Traced env (f a) w' keys' n') :
    Traced env (x >>= f) w (keys ++ keys') (n + n') := by
  intro b w'' h
  obtain ⟨a, w', hfirst, hrest⟩ := bind_returns.mp h
  exact .bind (hx a w' hfirst) hfirst (hf a w' hfirst b w'' hrest)

theorem read (hx : ReadOnly x) (hf : ∀ a, Traced env (f a) w keys n) :
    Traced env (x >>= f) w keys n := by
  rw [← List.nil_append keys, ← Nat.zero_add n]
  refine (reads hx).bind fun a w' h => ?_
  obtain ⟨k, hout⟩ := h
  obtain ⟨rfl, -⟩ := hx.of_ok hout
  exact hf a

theorem load {h : World N → α} (hf : Traced env (f (h w)) w keys n) :
    Traced env (load h >>= f) w keys n := by
  intro b w'' hreturns
  rw [← List.nil_append keys, ← Nat.zero_add n]
  obtain ⟨a, w', hfirst, hrest⟩ := bind_returns.mp hreturns
  obtain ⟨rfl, rfl⟩ := load_returns.mp hfirst
  exact .bind (.reads (readOnly_load h)) hfirst (hf b w'' hrest)

theorem andReads (hx : Traced env x w keys n) (hf : ∀ a, ReadOnly (f a)) :
    Traced env (x >>= f) w keys n := by
  rw [← List.append_nil keys]
  exact hx.bind fun a w' _ => reads (hf a)

theorem puts (key : DataKey) (value : StoredValue) (fits : fits key value = true) :
    Traced env (setMarket fun m => put m key value : MarketCall N Unit) w [key] 0 :=
  fun _ _ _ => .put fits

theorem put (key : DataKey) (value : StoredValue) (fits : fits key value = true)
    (hg : ∀ w', Traced env (g ()) w' keys n) :
    Traced env ((setMarket fun m => StorageWrites.put m key value) >>= g) w (key :: keys) n := by
  rw [← List.singleton_append, ← Nat.zero_add n]
  exact (puts key value fits).bind fun _ w' _ => hg w'

theorem outside (hx : Traced env x w [] 1) (hf : ∀ a w', Traced env (f a) w' keys n) :
    Traced env (x >>= f) w keys (n + 1) := by
  rw [← List.nil_append keys, Nat.add_comm]
  exact hx.bind fun a w' _ => hf a w'

theorem publishes (event : Event) : Traced env (publish event : MarketCall N Unit) w [] 1 :=
  fun _ _ _ => .publish

theorem transfers (token src dst : Address) (amount : ℤ) :
    Traced env (tokenTransfer token src dst amount : MarketCall N Unit) w [] 1 :=
  fun _ _ _ => .tokenTransfer

end Traced

section Operations

variable {env : Env} {w : World N}

theorem traced_transferToContract (src : Address) (amount : ℤ) :
    Traced env (transferToContract src amount : MarketCall N Unit) w [] 1 := by
  refine .read readOnly_getTokenAddress fun token => ?_
  exact .read readOnly_context fun env' => .transfers _ _ _ _

theorem traced_transferFromContract (dst : Address) (amount : ℤ) :
    Traced env (transferFromContract dst amount : MarketCall N Unit) w [] 1 := by
  refine .read readOnly_getTokenAddress fun token => ?_
  exact .read readOnly_context fun env' => .transfers _ _ _ _

theorem setPollStatus_ok {s t : OracleStorage} {u : Unit} {pollId n : ℕ} {status : PollStatus}
    (h : setPollStatus pollId status env s = .ok u t n) : n = 1 := by
  simp only [setPollStatus, VotingOracle.getAdmin, bind_eq_ok] at h
  obtain ⟨_, _, _, _, ⟨_, _, _, _, hload, hadmin, rfl⟩, ⟨_, _, _, _, hsigned, h, rfl⟩, rfl⟩ := h
  obtain ⟨_, _, _, _, htime, hstore, rfl⟩ := h
  obtain ⟨rfl, rfl⟩ := (readOnly_load _).of_ok hload
  obtain ⟨rfl, rfl⟩ := (readOnly_okOr _ _).of_ok hadmin
  obtain ⟨rfl, rfl⟩ := (readOnly_requireAuth _).of_ok hsigned
  obtain ⟨rfl, rfl⟩ := readOnly_timestamp.of_ok htime
  rcases Outcome.ok.inj hstore with ⟨-, -, rfl⟩
  rfl

theorem traced_setPollStatus (oracleId : Address) (pollId : ℕ) (status : PollStatus) :
    Traced env (callOracle oracleId (setPollStatus pollId status) : MarketCall N Unit) w [] 1 := by
  intro u w' h
  obtain ⟨storage, storage', hdeployed, ⟨n, hentry⟩, -⟩ := callOracle_returns.mp h
  cases setPollStatus_ok hentry
  exact .callOracle hdeployed hentry

theorem traced_initializeMarket
    (admin votingOracle tokenAddress treasuryAddress : Address) (platformFeeBps : ℕ) :
    Traced env (PredictionMarket.initializeMarket admin votingOracle tokenAddress
      treasuryAddress platformFeeBps : MarketCall N Unit) w
      [.admin, .votingOracle, .tokenAddress, .treasuryAddress, .platformFeeBps, .nextMatchId,
        .nextPollId, .initialized] 0 := by
  refine .read (readOnly_load _) fun stored => ?_
  refine .read (readOnly_failIf _ _) fun _ => .read (readOnly_requireAuth admin) fun _ => ?_
  refine .put .admin (.address admin) rfl fun _ => ?_
  refine .put .votingOracle (.address votingOracle) rfl fun _ => ?_
  refine .put .tokenAddress (.address tokenAddress) rfl fun _ => ?_
  refine .put .treasuryAddress (.address treasuryAddress) rfl fun _ => ?_
  refine .put .platformFeeBps (.number platformFeeBps) rfl fun _ => ?_
  refine .put .nextMatchId (.number 1) rfl fun _ => ?_
  refine .put .nextPollId (.number 1) rfl fun _ => ?_
  exact .puts .initialized (.flag true) rfl

theorem traced_setOracle (votingOracle : Address) :
    Traced env (PredictionMarket.setOracle votingOracle : MarketCall N Unit) w
      [.votingOracle] 0 := by
  refine .read readOnly_ensureNotPaused fun _ => .read readOnly_getAdmin fun admin => ?_
  refine .read (readOnly_requireAuth admin) fun _ => ?_
  exact .puts .votingOracle (.address votingOracle) rfl

theorem traced_setPaused (admin : Address) (paused : Bool) (event : Event) :
    Traced env (setPaused admin paused event : MarketCall N Unit) w [.paused] 1 := by
  refine .read readOnly_getAdmin fun storedAdmin => .read (readOnly_failIf _ _) fun _ => ?_
  refine .read (readOnly_requireAuth admin) fun _ => ?_
  exact .put .paused (.flag paused) rfl fun _ => .publishes event

theorem traced_cancelPoll (admin : Address) (pollId : ℕ) :
    Traced env (PredictionMarket.cancelPoll admin pollId : MarketCall N Unit) w [] 2 := by
  refine .read readOnly_ensureNotPaused fun _ => .read readOnly_getAdmin fun storedAdmin => ?_
  refine .read (readOnly_failIf _ _) fun _ => .read (readOnly_requireAuth admin) fun _ => ?_
  refine .read readOnly_getOracle fun oracleId => ?_
  exact .outside (traced_setPollStatus oracleId pollId _) fun _ _ => .publishes _

theorem traced_emergencyWithdraw (user : Address) (pollId : ℕ) :
    Traced env (PredictionMarket.emergencyWithdraw user pollId : MarketCall N ℤ) w
      [.emergencyClaimed pollId user, .platformStats] 2 := by
  refine .read (readOnly_requireAuth user) fun _ => .read (readOnly_load _) fun claimed => ?_
  refine .read (readOnly_failIf _ _) fun _ => .read readOnly_getOracle fun oracleId => ?_
  refine .read (readOnly_eligible oracleId pollId) fun _ => .read (readOnly_failIf _ _) fun _ => ?_
  refine .read (readOnly_load _) fun stored => .read (readOnly_okOr _ _) fun stake => ?_
  refine .put (.emergencyClaimed pollId user) (.flag true) rfl fun _ => ?_
  refine .outside (traced_transferFromContract user _) fun _ _ => ?_
  refine .read (readOnly_load _) fun stats => .read (readOnly_checkedI128 _) fun locked => ?_
  refine .put .platformStats (.stats _) rfl fun _ => ?_
  exact (Traced.publishes _).andReads fun _ => readOnly_pure _

theorem traced_createPoll (creator : Address) (matchId : ℕ) (question : String)
    (category : PollCategory) (lockTime : ℕ) :
    Traced env (PredictionMarket.createPoll creator matchId question category lockTime :
      MarketCall N ℕ) w
      [.poll (w.market.nextPollId.getD 1), .matchPolls matchId, .nextPollId, .platformStats]
      1 := by
  refine .read readOnly_ensureNotPaused fun _ => .read (readOnly_requireAuth creator) fun _ => ?_
  refine .read (readOnly_load _) fun stored => .read (readOnly_okOr _ _) fun _ => ?_
  refine .read readOnly_timestamp fun now => .read (readOnly_failIf _ _) fun _ => ?_
  refine .read (readOnly_load _) fun matchPolls => .read (readOnly_failIf _ _) fun _ => ?_
  refine .load ?_
  refine .put (.poll _) (.poll _) rfl fun _ => ?_
  refine .put (.matchPolls matchId) (.ids _) rfl fun _ => ?_
  refine .read (readOnly_checkedU64 _) fun nextPollId => ?_
  refine .put .nextPollId (.number nextPollId) rfl fun _ => ?_
  refine .read (readOnly_load _) fun stats => .read (readOnly_checkedU64 _) fun created => ?_
  refine .put .platformStats (.stats _) rfl fun _ => ?_
  exact (Traced.publishes _).andReads fun _ => readOnly_pure _

theorem traced_stake (staker : Address) (pollId : ℕ) (amount : ℤ) (side : StakeSide) :
    Traced env (Staking.stake staker pollId amount side : MarketCall N Stake) w
      [.stake pollId staker, .hasStaked pollId staker, .poll pollId, .userStakes staker,
        .platformStats] 2 := by
  refine .read (readOnly_requireAuth staker) fun _ => .read readOnly_ensureNotPaused fun _ => ?_
  refine .read (readOnly_failIf _ _) fun _ => .read (readOnly_failIf _ _) fun _ => ?_
  refine .read (readOnly_load _) fun stored => .read (readOnly_okOr _ _) fun poll => ?_
  refine .read (readOnly_failIf _ _) fun _ => .read readOnly_timestamp fun now => ?_
  refine .read (readOnly_failIf _ _) fun _ => .read (readOnly_load _) fun hasStaked => ?_
  refine .read (readOnly_failIf _ _) fun _ => ?_
  refine .outside (traced_transferToContract staker amount) fun _ _ => ?_
  refine .put (.stake pollId staker) (.stake _) rfl fun _ => ?_
  refine .put (.hasStaked pollId staker) (.flag true) rfl fun _ => ?_
  refine .read (readOnly_updatePoolTotals poll amount side) fun updated => ?_
  refine .put (.poll pollId) (.poll updated) rfl fun _ => ?_
  refine .read (readOnly_load _) fun userStakes => ?_
  refine .put (.userStakes staker) (.ids _) rfl fun _ => ?_
  refine .read (readOnly_load _) fun stats => .read (readOnly_checkedI128 _) fun locked => ?_
  refine .read (readOnly_checkedU64 _) fun placed => ?_
  refine .put .platformStats (.stats _) rfl fun _ => ?_
  exact (Traced.publishes _).andReads fun _ => readOnly_pure _

theorem traced_createMatch (admin : Address) (homeTeam awayTeam league venue : String)
    (kickoffTime : ℕ) :
    Traced env (Matches.createMatch admin homeTeam awayTeam league venue kickoffTime :
      MarketCall N ℕ) w
      [.matchRecord (w.market.nextMatchId.getD 1), .matchPolls (w.market.nextMatchId.getD 1),
        .nextMatchId] 1 := by
  refine .read (readOnly_requireAdmin admin) fun _ => .read readOnly_timestamp fun now => ?_
  refine .read (readOnly_failIf _ _) fun _ => .load ?_
  refine .put (.matchRecord _) (.matchRecord _) rfl fun _ => ?_
  refine .put (.matchPolls _) (.ids []) rfl fun _ => ?_
  refine .read (readOnly_checkedU64 _) fun nextMatchId => ?_
  refine .put .nextMatchId (.number nextMatchId) rfl fun _ => ?_
  exact (Traced.publishes _).andReads fun _ => readOnly_pure _

theorem traced_updateMatch (admin : Address) (matchId : ℕ)
    (homeTeam awayTeam league venue : Option String) (kickoffTime : Option ℕ) :
    Traced env (Matches.updateMatch admin matchId homeTeam awayTeam league venue kickoffTime :
      MarketCall N Match) w [.matchRecord matchId] 1 := by
  refine .read (readOnly_requireAdmin admin) fun _ => .read (readOnly_load _) fun stored => ?_
  refine .read (readOnly_okOr _ _) fun m => .read readOnly_timestamp fun now => ?_
  refine .read (readOnly_failIf _ _) fun _ => ?_
  refine .read (readOnly_reschedule _ now kickoffTime) fun updated => ?_
  refine .put (.matchRecord matchId) (.matchRecord updated) rfl fun _ => ?_
  exact (Traced.publishes _).andReads fun _ => readOnly_pure _

theorem traced_finishMatch (admin : Address) (matchId : ℕ) :
    Traced env (Matches.finishMatch admin matchId : MarketCall N Unit) w
      [.matchRecord matchId] 1 := by
  refine .read (readOnly_requireAdmin admin) fun _ => .read (readOnly_load _) fun stored => ?_
  refine .read (readOnly_okOr _ _) fun m => ?_
  exact .put (.matchRecord matchId) (.matchRecord _) rfl fun _ => .publishes _

/-- The keys an operation writes when it goes through. -/
def written (m : Market) : MarketOp → List DataKey
  | .initializeMarket .. =>
      [.admin, .votingOracle, .tokenAddress, .treasuryAddress, .platformFeeBps, .nextMatchId,
        .nextPollId, .initialized]
  | .setOracle _ => [.votingOracle]
  | .pause _ | .unpause _ => [.paused]
  | .cancelPoll .. => []
  | .emergencyWithdraw user pollId => [.emergencyClaimed pollId user, .platformStats]
  | .createPoll _ matchId _ _ _ =>
      [.poll (m.nextPollId.getD 1), .matchPolls matchId, .nextPollId, .platformStats]
  | .stake staker pollId _ _ =>
      [.stake pollId staker, .hasStaked pollId staker, .poll pollId, .userStakes staker,
        .platformStats]
  | .createMatch .. =>
      [.matchRecord (m.nextMatchId.getD 1), .matchPolls (m.nextMatchId.getD 1), .nextMatchId]
  | .updateMatch _ matchId _ _ _ _ _ => [.matchRecord matchId]
  | .finishMatch _ matchId => [.matchRecord matchId]

/-- The events an operation publishes, its transfers and its writes to the
oracle. -/
def otherWrites : MarketOp → ℕ
  | .initializeMarket .. | .setOracle _ => 0
  | .cancelPoll .. | .emergencyWithdraw .. | .stake .. => 2
  | _ => 1

theorem written_nodup (m : Market) (op : MarketOp) : (written m op).Nodup := by
  cases op <;> simp [written]

theorem traced_execute (op : MarketOp) :
    Traced env (op.execute : MarketCall N Value) w (written w.market op) (otherWrites op) := by
  cases op with
  | initializeMarket =>
      exact (traced_initializeMarket _ _ _ _ _).andReads fun _ => readOnly_pure _
  | setOracle => exact (traced_setOracle _).andReads fun _ => readOnly_pure _
  | pause | unpause => exact (traced_setPaused _ _ _).andReads fun _ => readOnly_pure _
  | cancelPoll => exact (traced_cancelPoll _ _).andReads fun _ => readOnly_pure _
  | emergencyWithdraw => exact (traced_emergencyWithdraw _ _).andReads fun _ => readOnly_pure _
  | createPoll => exact (traced_createPoll _ _ _ _ _).andReads fun _ => readOnly_pure _
  | stake => exact (traced_stake _ _ _ _).andReads fun _ => readOnly_pure _
  | createMatch => exact (traced_createMatch _ _ _ _ _ _).andReads fun _ => readOnly_pure _
  | updateMatch => exact (traced_updateMatch _ _ _ _ _ _ _).andReads fun _ => readOnly_pure _
  | finishMatch => exact (traced_finishMatch _ _).andReads fun _ => readOnly_pure _

end Operations

end PredictX.StorageWrites
