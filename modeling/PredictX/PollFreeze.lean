import PredictX.Bookkeeping

namespace PredictX.PollFreeze

open PredictX.Bookkeeping
open PredictX.CommittedCalls
open PredictX.FiniteStore
open PredictX.HostCall
open PredictX.LabelledRuns
open PredictX.MarketStorage
open PredictX.PredictionMarket
open PredictX.SharedTypes
open PredictX.Staking
open PredictX.System
open PredictX.TokenContracts

variable {N : Network}

/-- The poll is the same one, with at least as much staked on it. -/
structure Grown (poll poll' : Poll) : Prop where
  pollId_eq : poll'.pollId = poll.pollId
  matchId_eq : poll'.matchId = poll.matchId
  creator_eq : poll'.creator = poll.creator
  question_eq : poll'.question = poll.question
  category_eq : poll'.category = poll.category
  lockTime_eq : poll'.lockTime = poll.lockTime
  createdAt_eq : poll'.createdAt = poll.createdAt
  yesPool_le : poll.yesPool ≤ poll'.yesPool
  noPool_le : poll.noPool ≤ poll'.noPool
  yesCount_le : poll.yesCount ≤ poll'.yesCount
  noCount_le : poll.noCount ≤ poll'.noCount

theorem Grown.refl (poll : Poll) : Grown poll poll :=
  ⟨rfl, rfl, rfl, rfl, rfl, rfl, rfl, le_rfl, le_rfl, le_rfl, le_rfl⟩

theorem Grown.trans {poll poll' poll'' : Poll} (h : Grown poll poll') (h' : Grown poll' poll'') :
    Grown poll poll'' where
  pollId_eq := h'.pollId_eq.trans h.pollId_eq
  matchId_eq := h'.matchId_eq.trans h.matchId_eq
  creator_eq := h'.creator_eq.trans h.creator_eq
  question_eq := h'.question_eq.trans h.question_eq
  category_eq := h'.category_eq.trans h.category_eq
  lockTime_eq := h'.lockTime_eq.trans h.lockTime_eq
  createdAt_eq := h'.createdAt_eq.trans h.createdAt_eq
  yesPool_le := h.yesPool_le.trans h'.yesPool_le
  noPool_le := h.noPool_le.trans h'.noPool_le
  yesCount_le := h.yesCount_le.trans h'.yesCount_le
  noCount_le := h.noCount_le.trans h'.noCount_le

theorem Grown.pool_le {poll poll' : Poll} (h : Grown poll poll') (side : StakeSide) :
    poolOnSide poll side ≤ poolOnSide poll' side := by
  cases side with
  | yes => exact h.yesPool_le
  | no => exact h.noPool_le

theorem grown_credited (poll : Poll) {amount : ℤ} (h : 0 ≤ amount) (side : StakeSide) :
    Grown poll (credited poll amount side) := by
  cases side with
  | yes => exact { Grown.refl poll with
      yesPool_le := le_add_of_nonneg_right h, yesCount_le := Nat.le_succ _ }
  | no => exact { Grown.refl poll with
      noPool_le := le_add_of_nonneg_right h, noCount_le := Nat.le_succ _ }

/-- The side on which the transaction placed a stake on the poll. -/
def placedSide (pollId : ℕ) (e : Transaction N) : Option StakeSide :=
  match e.input, e.output with
  | .market _ (.stake _ pollId' _ side), .ok _ => if pollId' = pollId then some side else none
  | _, _ => none

theorem placedSide_rejected {pollId : ℕ} {w w' : World N} {a : Action N}
    {reply : Reply PredictXError Value} (h : ∀ value, reply ≠ .ok value) :
    placedSide pollId ⟨w, a, reply, w'⟩ = none := by
  unfold placedSide
  split
  · rename_i hreply
    exact absurd hreply (h _)
  · rfl

/-- A stored poll is kept as it is, or credited with a stake before its lock
time. -/
theorem placed_step {w w' : World N} {a : Action N} {reply : Reply PredictXError Value}
    (hcons : Consistent N.market w.market) (hstep : Step w a reply w') {pollId : ℕ} {poll : Poll}
    (h : w.market.polls.lookup pollId = some poll) :
    (placedSide pollId ⟨w, a, reply, w'⟩ = none ∧ w'.market.polls.lookup pollId = some poll) ∨
      ∃ side amount, placedSide pollId ⟨w, a, reply, w'⟩ = some side ∧ 0 < amount ∧
        w.now < poll.lockTime ∧
        w'.market.polls.lookup pollId = some (credited poll amount side) := by
  cases hstep with
  | rejected failed => exact .inl ⟨placedSide_rejected failed, h⟩
  | market committed =>
      cases committed with
      | createPoll _ _ _ _ _ _ _ poll_eq =>
          -- The new poll is stored under another id: stored ids lie below the counter.
          subst poll_eq
          have hbelow := (hcons.poll pollId poll h).below
          refine .inl ⟨rfl, ?_⟩
          rw [polls_pollAdded, if_neg (Nat.ne_of_lt hbelow), h]
      | @stake staker _ pollId' amount side poll' _ _ _ _ minimum poll_found _ poll_open _ _ _ _
          record_eq =>
          subst record_eq
          rw [polls_staked]
          by_cases heq : pollId' = pollId
          · subst heq
            cases poll_found.symm.trans h
            refine .inr ⟨side, amount, if_pos rfl, pos_of_minimum minimum, poll_open, ?_⟩
            rw [if_pos rfl]
          · refine .inl ⟨if_neg heq, ?_⟩
            rw [if_neg (Ne.symm heq), h]
      | _ => exact .inl ⟨rfl, h⟩
  | _ => exact .inl ⟨rfl, h⟩

theorem poll_step {w w' : World N} {a : Action N} {reply : Reply PredictXError Value}
    (hcons : Consistent N.market w.market) (hstep : Step w a reply w') {pollId : ℕ} {poll : Poll}
    (h : w.market.polls.lookup pollId = some poll) :
    w'.market.polls.lookup pollId = some poll ∨
      w.now < poll.lockTime ∧ ∃ poll', w'.market.polls.lookup pollId = some poll' ∧
        Grown poll poll' := by
  rcases placed_step hcons hstep h with ⟨-, hsame⟩ | ⟨side, amount, -, hpos, hopen, hcredited⟩
  · exact .inl hsame
  · exact .inr ⟨hopen, _, hcredited, grown_credited poll hpos.le side⟩

theorem poll_grows {w w' : World N} {a : Action N} {reply : Reply PredictXError Value}
    (hcons : Consistent N.market w.market) (hstep : Step w a reply w') {pollId : ℕ} {poll : Poll}
    (h : ∃ poll', w.market.polls.lookup pollId = some poll' ∧ Grown poll poll') :
    ∃ poll', w'.market.polls.lookup pollId = some poll' ∧ Grown poll poll' := by
  obtain ⟨poll', hpoll', hgrown⟩ := h
  rcases poll_step hcons hstep hpoll' with hsame | ⟨-, poll'', hpoll'', hgrown'⟩
  · exact ⟨poll', hsame, hgrown⟩
  · exact ⟨poll'', hpoll'', hgrown.trans hgrown'⟩

theorem stakes_step {w w' : World N} {a : Action N} {reply : Reply PredictXError Value}
    (hstep : Step w a reply w') {pollId : ℕ} {poll : Poll}
    (h : w.market.polls.lookup pollId = some poll) (hlocked : poll.lockTime ≤ w.now)
    (user : Address) :
    w'.market.stakes.lookup (pollId, user) = w.market.stakes.lookup (pollId, user) := by
  cases hstep with
  | market committed =>
      cases committed with
      | @stake staker _ pollId' _ _ _ _ _ _ _ _ poll_found _ poll_open _ _ _ _ record_eq =>
          subst record_eq
          rw [stakes_staked, if_neg]
          intro hkey
          cases hkey
          cases poll_found.symm.trans h
          exact absurd hlocked (not_le.mpr poll_open)
      | _ => rfl
  | _ => rfl

/-- Polls were created before their lock time, and stakes placed in between. -/
structure Timely (w : World N) : Prop where
  poll : ∀ pollId poll, w.market.polls.lookup pollId = some poll →
    poll.createdAt < poll.lockTime ∧ poll.createdAt ≤ w.now
  stake : ∀ pollId user record poll, w.market.stakes.lookup (pollId, user) = some record →
    w.market.polls.lookup pollId = some poll →
    poll.createdAt ≤ record.stakedAt ∧ record.stakedAt < poll.lockTime

theorem Timely.idle {w w' : World N} (h : Timely w) (hpolls : w'.market.polls = w.market.polls)
    (hstakes : w'.market.stakes = w.market.stakes) (hnow : w.now ≤ w'.now) : Timely w' where
  poll := by
    intro pollId poll hpoll
    rw [hpolls] at hpoll
    obtain ⟨hlater, hpast⟩ := h.poll pollId poll hpoll
    exact ⟨hlater, hpast.trans hnow⟩
  stake := by
    rw [hpolls, hstakes]
    exact h.stake

theorem Timely.created {w : World N} (h : Timely w) (hcons : Consistent N.market w.market)
    {poll : Poll} (pollId_eq : poll.pollId = w.market.nextPollId.getD 1)
    (createdAt_eq : poll.createdAt = w.now) (lock_later : w.now < poll.lockTime) :
    Timely { w with market := pollAddedMarket w.market poll } where
  poll := by
    intro pollId poll' hpoll
    rw [polls_pollAdded] at hpoll
    split at hpoll
    · cases hpoll
      exact ⟨createdAt_eq.trans_lt lock_later, createdAt_eq.le⟩
    · exact h.poll pollId poll' hpoll
  stake := by
    intro pollId user record poll' hrecord hpoll
    obtain ⟨old, hold⟩ := Finmap.mem_iff.mp (hcons.record pollId user record hrecord).poll_found
    have hbelow := (hcons.poll pollId old hold).below
    rw [polls_pollAdded, if_neg (by omega)] at hpoll
    exact h.stake pollId user record poll' hrecord hpoll

theorem Timely.staked {w : World N} (h : Timely w) {poll : Poll} {record : Stake}
    (poll_found : w.market.polls.lookup record.pollId = some poll)
    (stakedAt_eq : record.stakedAt = w.now) (poll_open : w.now < poll.lockTime) :
    Timely { w with market := stakedMarket w.market poll record } := by
  have htimes : ∀ poll', (stakedMarket w.market poll record).polls.lookup record.pollId =
      some poll' → poll'.createdAt = poll.createdAt ∧ poll'.lockTime = poll.lockTime := by
    intro poll' hpoll
    rw [polls_staked, if_pos rfl] at hpoll
    cases hpoll
    exact ⟨createdAt_credited _ _ _, lockTime_credited _ _ _⟩
  have hother : ∀ pollId, pollId ≠ record.pollId →
      (stakedMarket w.market poll record).polls.lookup pollId = w.market.polls.lookup pollId := by
    intro pollId hne
    rw [polls_staked, if_neg hne]
  obtain ⟨hlater, hpast⟩ := h.poll _ poll poll_found
  constructor
  · intro pollId poll' hpoll
    by_cases hsame : pollId = record.pollId
    · subst hsame
      obtain ⟨hcreated, hlock⟩ := htimes poll' hpoll
      rw [hcreated, hlock]
      exact ⟨hlater, hpast⟩
    · rw [hother pollId hsame] at hpoll
      exact h.poll pollId poll' hpoll
  · intro pollId user record' poll' hrecord hpoll
    by_cases hsame : pollId = record.pollId
    · subst hsame
      obtain ⟨hcreated, hlock⟩ := htimes poll' hpoll
      rw [hcreated, hlock]
      rw [stakes_staked] at hrecord
      split at hrecord
      · cases hrecord
        rw [stakedAt_eq]
        exact ⟨hpast, poll_open⟩
      · exact h.stake _ user record' poll hrecord poll_found
    · rw [hother pollId hsame] at hpoll
      rw [stakes_staked, if_neg (fun hkey => hsame (Prod.mk.inj hkey).1)] at hrecord
      exact h.stake pollId user record' poll' hrecord hpoll

theorem timely_step {w w' : World N} {a : Action N} {reply : Reply PredictXError Value}
    (hcons : Consistent N.market w.market) (hstep : Step w a reply w') (h : Timely w) :
    Timely w' := by
  cases hstep with
  | elapse => exact h.idle rfl rfl (Nat.le_add_right _ _)
  | market committed =>
      cases committed with
      | @createPoll _ _ _ _ _ _ poll _ _ _ lock_later _ _ _ poll_eq =>
          have hid : poll.pollId = w.market.nextPollId.getD 1 := by rw [poll_eq]
          have hcreated : poll.createdAt = w.now := by
            rw [poll_eq]
            rfl
          have hlater : w.now < poll.lockTime := by
            rw [poll_eq]
            exact lock_later
          exact (h.created hcons hid hcreated hlater).idle rfl rfl le_rfl
      | stake _ _ _ poll_found _ poll_open _ _ _ _ record_eq =>
          subst record_eq
          exact (h.staked poll_found rfl poll_open).idle rfl rfl le_rfl
      | _ => exact h.idle rfl rfl le_rfl
  | _ => exact h.idle rfl rfl le_rfl

theorem timely_run (x : Execution N) : Timely x.final := by
  refine invariant_final x ⟨?_, ?_⟩ timely_step
  · simp [genesis, Market.deployed]
  · simp [genesis, Market.deployed]

theorem grown_later (x : Execution N) {pollId : ℕ} {poll : Poll}
    (found : x.final.market.polls.lookup pollId = some poll) (later : List (Action N)) :
    ∃ poll', (x.andThen later).final.market.polls.lookup pollId = some poll' ∧
      Grown poll poll' :=
  invariant_later (P := fun w : World N => ∃ poll', w.market.polls.lookup pollId = some poll' ∧
    Grown poll poll') x ⟨poll, found, .refl poll⟩
    (fun hcons hstep hgrown => poll_grows hcons hstep hgrown) later

/-- A poll keeps what it was created with, its pools never shrink, and every
stake on it falls between its creation and its lock time; from the lock time
on nothing about it changes. -/
theorem polls_freeze (x : Execution N) {pollId : ℕ} {poll : Poll}
    (found : x.final.market.polls.lookup pollId = some poll) :
    poll.createdAt < poll.lockTime ∧
      (∀ user record, x.final.market.stakes.lookup (pollId, user) = some record →
        poll.createdAt ≤ record.stakedAt ∧ record.stakedAt < poll.lockTime) ∧
      (∀ later, ∃ poll', (x.andThen later).final.market.polls.lookup pollId = some poll' ∧
        Grown poll poll') ∧
      (poll.lockTime ≤ x.final.now → ∀ later,
        (x.andThen later).final.market.polls.lookup pollId = some poll ∧
          ∀ user, (x.andThen later).final.market.stakes.lookup (pollId, user) =
            x.final.market.stakes.lookup (pollId, user)) := by
  have htimely := timely_run x
  refine ⟨(htimely.poll pollId poll found).1, ?_, grown_later x found, ?_⟩
  · intro user record hrecord
    exact htimely.stake pollId user record poll hrecord found
  · intro hlocked later
    refine (invariant_later (P := fun w : World N => poll.lockTime ≤ w.now ∧
      w.market.polls.lookup pollId = some poll ∧ ∀ user, w.market.stakes.lookup (pollId, user) =
        x.final.market.stakes.lookup (pollId, user)) x ⟨hlocked, found, fun _ => rfl⟩ ?_ later).2
    rintro w a reply w' hcons hstep ⟨hpast, hpoll, hstakes⟩
    refine ⟨hpast.trans hstep.now_le, ?_, ?_⟩
    · rcases poll_step hcons hstep hpoll with hsame | ⟨hopen, -⟩
      · exact hsame
      · exact absurd hpast (not_le.mpr hopen)
    · intro user
      rw [stakes_step hstep hpoll hpast user, hstakes]

/-- Poll 1 has a stake on each side and is past its lock time. -/
def lockedPollRun : Execution sampleNetwork :=
  sampleRun
    [.market allSign (.stake ⟨5⟩ 1 20000000 .yes), .market allSign (.stake ⟨6⟩ 1 30000000 .no),
      .elapse 1000]

theorem polls_freeze_sample :
    ∃ poll, lockedPollRun.final.market.polls.lookup 1 = some poll ∧
      poll.yesPool = 20000000 ∧ poll.noPool = 30000000 ∧ poll.createdAt < poll.lockTime ∧
      ∀ later, (lockedPollRun.andThen later).final.market.polls.lookup 1 = some poll := by
  obtain ⟨poll, hpoll⟩ := Finmap.mem_iff.mp
    (show 1 ∈ lockedPollRun.final.market.polls by decide +kernel)
  have hshape : (lockedPollRun.final.market.polls.lookup 1).map
      (fun poll => (poll.lockTime, poll.yesPool, poll.noPool)) =
        some (1000, 20000000, 30000000) := by
    decide +kernel
  rw [hpoll, Option.map_some, Option.some.injEq] at hshape
  simp only [Prod.mk.injEq] at hshape
  obtain ⟨hlock, hyes, hno⟩ := hshape
  have hlocked : poll.lockTime ≤ lockedPollRun.final.now := by
    rw [hlock]
    decide +kernel
  obtain ⟨hlater, -, -, hfrozen⟩ := polls_freeze lockedPollRun hpoll
  exact ⟨poll, hpoll, hyes, hno, hlater, fun later => (hfrozen hlocked later).1⟩

end PredictX.PollFreeze
