import PredictX.FiniteStore
import PredictX.SorobanHost
import PredictX.Transactions

namespace PredictX.PollFactory

open PredictX.FiniteStore
open PredictX.HostCall
open PredictX.HostCall.Call
open PredictX.LabelledRuns
open PredictX.SharedTypes
open PredictX.SorobanHost
open PredictX.Transactions

structure FactoryStorage where
  admin : Option Address
  nextPollId : Option ℕ
  poll : Store ℕ Poll

def FactoryStorage.deployed : FactoryStorage where
  admin := none
  nextPollId := none
  poll := ∅

abbrev FactoryCall := Call Env FactoryStorage PredictXError

def getAdmin : FactoryCall Address := do
  let admin ← load (·.admin)
  okOr admin .notInitialized

def FactoryStorage.nextId (s : FactoryStorage) : ℕ := s.nextPollId.getD 1

def bumpPollId : FactoryCall ℕ := do
  let id ← load (·.nextId)
  let next ← checkedU64 (id + 1)
  store fun s => { s with nextPollId := some next }
  pure id

def initializeFactory (admin : Address) : FactoryCall Unit := do
  let stored ← load (·.admin)
  failIf (stored.isSome = true) .alreadyInitialized
  requireAuth admin
  store fun s => { s with admin := some admin }
  store fun s => { s with nextPollId := some 1 }

/-- The poll a creation stores; the lock time is taken as given. -/
def newPoll (creator : Address) (question : String) (lockTimestamp now pollId : ℕ) : Poll where
  pollId := pollId
  matchId := 0
  creator := creator
  question := question
  category := .other
  lockTime := lockTimestamp
  yesPool := 0
  noPool := 0
  yesCount := 0
  noCount := 0
  status := .active
  outcome := none
  resolutionTime := 0
  createdAt := now

def createPoll (creator : Address) (question : String) (lockTimestamp : ℕ) : FactoryCall ℕ := do
  let admin ← load (·.admin)
  failIf (admin.isSome = false) .notInitialized
  requireAuth creator
  let pollId ← bumpPollId
  let now ← timestamp
  store fun s =>
    { s with poll := s.poll.insert pollId (newPoll creator question lockTimestamp now pollId) }
  pure pollId

def getPoll (pollId : ℕ) : FactoryCall Poll := do
  let poll ← load (·.poll.lookup pollId)
  okOr poll .pollNotFound

inductive FactoryOp where
  | initializeFactory (admin : Address)
  | createPoll (creator : Address) (question : String) (lockTimestamp : ℕ)

/-- The identifier an entry point returns, if it returns one. -/
def FactoryOp.execute : FactoryOp → FactoryCall (Option ℕ)
  | .initializeFactory admin => do
      PollFactory.initializeFactory admin
      pure none
  | .createPoll creator question lockTimestamp => do
      let pollId ← PollFactory.createPoll creator question lockTimestamp
      pure (some pollId)

section Returns

variable {env : Env} {s t : FactoryStorage}

theorem getAdmin_returns {admin : Address} :
    Returns getAdmin env s admin t ↔ s.admin = some admin ∧ t = s :=
  load_okOr_returns

theorem bumpPollId_returns {id : ℕ} :
    Returns bumpPollId env s id t ↔
      s.nextId + 1 < 2 ^ 64 ∧ id = s.nextId ∧ t = { s with nextPollId := some (s.nextId + 1) } := by
  simp only [bumpPollId, bind_returns, load_returns, checkedU64_returns, store_returns,
    pure_returns]
  constructor
  · rintro ⟨_, _, ⟨rfl, rfl⟩, _, _, ⟨hfits, rfl, rfl⟩, _, _, rfl, rfl, rfl⟩
    exact ⟨hfits, rfl, rfl⟩
  · rintro ⟨hfits, rfl, rfl⟩
    exact ⟨_, _, ⟨rfl, rfl⟩, _, _, ⟨hfits, rfl, rfl⟩, (), _, rfl, rfl, rfl⟩

theorem initializeFactory_returns {admin : Address} {u : Unit} :
    Returns (initializeFactory admin) env s u t ↔
      s.admin = none ∧ env.authorises admin = true ∧
        t = { s with admin := some admin, nextPollId := some 1 } := by
  simp [initializeFactory, bind_returns, load_returns, failIf_returns, requireAuth_returns,
    store_returns]

theorem createPoll_returns {creator : Address} {question : String} {lockTimestamp pollId : ℕ} :
    Returns (createPoll creator question lockTimestamp) env s pollId t ↔
      s.admin ≠ none ∧ env.authorises creator = true ∧ s.nextId + 1 < 2 ^ 64 ∧
        pollId = s.nextId ∧
        t = { s with
          nextPollId := some (s.nextId + 1)
          poll := s.poll.insert s.nextId
            (newPoll creator question lockTimestamp env.timestamp s.nextId) } := by
  simp only [createPoll, bind_returns, load_returns, failIf_returns, requireAuth_returns,
    bumpPollId_returns, timestamp_returns, store_returns, pure_returns]
  constructor
  · rintro ⟨_, _, ⟨rfl, rfl⟩, _, _, ⟨hadmin, rfl⟩, _, _, ⟨hauth, rfl⟩,
      _, _, ⟨hfits, rfl, rfl⟩, _, _, ⟨rfl, rfl⟩, _, _, rfl, rfl, rfl⟩
    exact ⟨by simpa using hadmin, hauth, hfits, rfl, rfl⟩
  · rintro ⟨hadmin, hauth, hfits, rfl, rfl⟩
    exact ⟨_, _, ⟨rfl, rfl⟩, (), _, ⟨by simpa using hadmin, rfl⟩, (), _, ⟨hauth, rfl⟩,
      _, _, ⟨hfits, rfl, rfl⟩, _, _, ⟨rfl, rfl⟩, (), _, rfl, rfl, rfl⟩

theorem getPoll_returns {pollId : ℕ} {poll : Poll} :
    Returns (getPoll pollId) env s poll t ↔ s.poll.lookup pollId = some poll ∧ t = s :=
  load_okOr_returns

end Returns

abbrev FactoryTransaction :=
  Entry FactoryStorage (Env × FactoryOp) (Reply PredictXError (Option ℕ))

/-- The poll that an accepted creation built. -/
def created (e : FactoryTransaction) : Option Poll :=
  match e.input.2, e.output with
  | .createPoll creator question lockTimestamp, .ok (some pollId) =>
      some (newPoll creator question lockTimestamp e.input.1.timestamp pollId)
  | _, _ => none

theorem created_refused {s t : FactoryStorage} {call : Env × FactoryOp}
    {reply : Reply PredictXError (Option ℕ)} (h : ∀ a, reply ≠ .ok a) :
    created ⟨s, call, reply, t⟩ = none := by
  unfold created
  split
  · rename_i hreply
    exact absurd hreply (h _)
  · rfl

/-- What an accepted call checked and did. -/
inductive FactoryChange (env : Env) (s : FactoryStorage) : FactoryOp → Option ℕ →
    FactoryStorage → Prop where
  | initializeFactory {admin : Address} (fresh : s.admin = none)
      (authorised : env.authorises admin = true) :
      FactoryChange env s (.initializeFactory admin) none
        { s with admin := some admin, nextPollId := some 1 }
  | createPoll {creator : Address} {question : String} {lockTimestamp : ℕ}
      (initialized : s.admin ≠ none) (authorised : env.authorises creator = true)
      (fits : s.nextId + 1 < 2 ^ 64) :
      FactoryChange env s (.createPoll creator question lockTimestamp) (some s.nextId)
        { s with
          nextPollId := some (s.nextId + 1)
          poll := s.poll.insert s.nextId
            (newPoll creator question lockTimestamp env.timestamp s.nextId) }

theorem factoryChange {env : Env} {s t : FactoryStorage} {op : FactoryOp} {value : Option ℕ}
    (h : Returns op.execute env s value t) : FactoryChange env s op value t := by
  cases op with
  | initializeFactory admin =>
      obtain ⟨_, _, hdone, hvalue⟩ := bind_returns.mp h
      obtain ⟨rfl, rfl⟩ := pure_returns.mp hvalue
      obtain ⟨hfresh, hauth, rfl⟩ := initializeFactory_returns.mp hdone
      exact .initializeFactory hfresh hauth
  | createPoll creator question lockTimestamp =>
      obtain ⟨_, _, hdone, hvalue⟩ := bind_returns.mp h
      obtain ⟨rfl, rfl⟩ := pure_returns.mp hvalue
      obtain ⟨hadmin, hauth, hfits, rfl, rfl⟩ := createPoll_returns.mp hdone
      exact .createPoll hadmin hauth hfits

/-- The storage stands for the list of the polls created, in order. -/
structure Lists (polls : List Poll) (s : FactoryStorage) : Prop where
  next : s.nextId = polls.length + 1
  idle : s.admin = none → polls = []
  unnumbered : s.poll.lookup 0 = none
  stored : ∀ n, s.poll.lookup (n + 1) = polls[n]?
  numbered : ∀ n poll, polls[n]? = some poll → poll.pollId = n + 1

theorem lists_deployed : Lists [] .deployed where
  next := rfl
  idle := fun _ => rfl
  unnumbered := rfl
  stored := by
    intro n
    rw [List.getElem?_nil]
    rfl
  numbered := by simp

theorem Lists.appended {polls : List Poll} {s : FactoryStorage} (h : Lists polls s) {poll : Poll}
    (hinitialized : s.admin ≠ none) (hid : poll.pollId = s.nextId) :
    Lists (polls ++ [poll])
      { s with nextPollId := some (s.nextId + 1), poll := s.poll.insert s.nextId poll } where
  next := by
    rw [List.length_append, List.length_singleton, ← h.next]
    rfl
  idle := fun hnone => absurd hnone hinitialized
  unnumbered := by
    rw [lookup_insert_eq, if_neg (by rw [h.next]; omega)]
    exact h.unnumbered
  stored := by
    intro n
    rw [lookup_insert_eq, List.getElem?_append, h.next]
    by_cases hlast : n = polls.length
    · subst hlast
      simp
    · rw [if_neg (by omega), h.stored]
      split
      · rfl
      · rename_i hbeyond
        rw [List.getElem?_eq_none (by omega), List.getElem?_eq_none]
        simp only [List.length_singleton]
        omega
  numbered := by
    intro n p hp
    rw [List.getElem?_append] at hp
    split at hp
    · exact h.numbered n p hp
    · rename_i hbeyond
      obtain ⟨hlast, rfl⟩ := List.getElem?_eq_some_iff.mp hp
      rw [List.length_singleton] at hlast
      have hn : n = polls.length := by omega
      simp [hid, h.next, hn]

theorem Lists.pollIds {polls : List Poll} {s : FactoryStorage} (h : Lists polls s) :
    polls.map (·.pollId) = List.range' 1 polls.length := by
  apply List.ext_getElem
  · rw [List.length_map, List.length_range']
  · intro n hn _
    rw [List.length_map] at hn
    rw [List.getElem_map, List.getElem_range', h.numbered n _ (List.getElem?_eq_getElem hn)]
    omega

theorem Lists.change {polls : List Poll} {env : Env} {s t : FactoryStorage} {op : FactoryOp}
    {value : Option ℕ} (h : Lists polls s) (hchange : FactoryChange env s op value t) :
    Lists (polls ++ (created ⟨s, (env, op), .ok value, t⟩).toList) t := by
  cases hchange with
  | initializeFactory fresh =>
      obtain rfl := h.idle fresh
      exact ⟨rfl, fun _ => rfl, h.unnumbered, h.stored, by simp [created]⟩
  | createPoll initialized => exact h.appended initialized rfl

/-- The polls created in a run, in order. -/
def creations (calls : List (Env × FactoryOp)) : List Poll :=
  (trace (transact FactoryOp.execute) .deployed calls).filterMap created

theorem lists_run (calls : List (Env × FactoryOp)) :
    Lists (creations calls) (run (transact FactoryOp.execute) .deployed calls) := by
  refine transactions_induction (P := fun history s => Lists (history.filterMap created) s)
    lists_deployed ?_ ?_ calls
  · intro history s env op value t hlists hreturns
    rw [List.filterMap_append]
    have hlast : List.filterMap created [⟨s, (env, op), .ok value, t⟩] =
        (created ⟨s, (env, op), .ok value, t⟩).toList := by
      cases hcreated : created ⟨s, (env, op), .ok value, t⟩ <;> simp [hcreated]
    rw [hlast]
    exact hlists.change (factoryChange hreturns)
  · intro history s env op reply hlists hrefused
    rw [List.filterMap_append]
    simpa [created_refused hrefused] using hlists

/-- What every transaction of a run keeps, and what an accepted creation
shows. -/
structure CreationStep (e : FactoryTransaction) : Prop where
  admin_kept : ∀ env admin, Returns getAdmin env e.before admin e.before →
    Returns getAdmin env e.after admin e.after
  signed : ∀ creator question lockTimestamp value,
    e.input.2 = .createPoll creator question lockTimestamp → e.output = .ok value →
      e.input.1.authorises creator = true ∧ e.before.admin ≠ none ∧ (created e).isSome = true

theorem creationStep_ok {env : Env} {s t : FactoryStorage} {op : FactoryOp} {value : Option ℕ}
    (h : FactoryChange env s op value t) : CreationStep ⟨s, (env, op), .ok value, t⟩ := by
  constructor
  · intro caller admin hbefore
    obtain ⟨hadmin, -⟩ := getAdmin_returns.mp hbefore
    rw [getAdmin_returns]
    cases h with
    | initializeFactory fresh => exact absurd (hadmin.symm.trans fresh) (by simp)
    | createPoll => exact ⟨hadmin, rfl⟩
  · rintro creator question lockTimestamp _ rfl ⟨⟩
    cases h with
    | createPoll initialized authorised => exact ⟨authorised, initialized, rfl⟩

theorem creationStep_refused {call : Env × FactoryOp} {s : FactoryStorage}
    {reply : Reply PredictXError (Option ℕ)} (h : ∀ a, reply ≠ .ok a) :
    CreationStep ⟨s, call, reply, s⟩ where
  admin_kept := fun _ _ => id
  signed := fun _ _ _ value _ hok => absurd hok (h value)

/-- After any run the factory is the list of the polls accepted so far: they got
the identifiers from one on in order, `get_poll` answers with the poll under an
identifier as it was built and knows no other, and the admin, once set, stays. -/
theorem factory_lists (calls : List (Env × FactoryOp)) :
    (creations calls).map (·.pollId) = List.range' 1 (creations calls).length ∧
      (∀ env pollId poll t,
        Returns (getPoll pollId) env (run (transact FactoryOp.execute) .deployed calls) poll t ↔
          0 < pollId ∧ (creations calls)[pollId - 1]? = some poll ∧
          t = run (transact FactoryOp.execute) .deployed calls) ∧
      ∀ e ∈ trace (transact FactoryOp.execute) .deployed calls, CreationStep e := by
  have hlists := lists_run calls
  refine ⟨hlists.pollIds, ?_, ?_⟩
  · intro env pollId poll t
    rw [getPoll_returns]
    cases pollId with
    | zero => simp [hlists.unnumbered]
    | succ n => simp [hlists.stored n]
  · intro e he
    apply transactions_forall _ _ he
    · intro s env op value t hreturns
      exact creationStep_ok (factoryChange hreturns)
    · intro s env op reply hrefused
      exact creationStep_refused hrefused

end PredictX.PollFactory
