import Mathlib.Data.Multiset.AddSub
import PredictX.Interchange
import PredictX.System

/-!
Stakes and emergency withdrawals as their users see them: numbers have no
bounds, a transfer moves what the sender has, and events are not ordered.
-/

namespace PredictX.UserCalls

open PredictX.CommittedCalls
open PredictX.FiniteStore
open PredictX.HostCall
open PredictX.Interchange
open PredictX.MarketStorage
open PredictX.PredictionMarket
open PredictX.SharedTypes
open PredictX.System
open PredictX.TokenContracts
open PredictX.VotingOracle

structure Ledger where
  now : ℕ
  market : Market
  oracles : Store Address OracleStorage
  balance : Address → Address → ℤ
  events : Multiset Event

inductive UserOp where
  | stake (pollId : ℕ) (amount : ℤ) (side : StakeSide)
  | emergencyWithdraw (pollId : ℕ)

structure UserCall (N : Network) where
  signatures : Signatures N
  user : Address
  op : UserOp

variable {N : Network}

def UserCall.action (c : UserCall N) : Action N :=
  match c.op with
  | .stake pollId amount side => .market c.signatures (.stake c.user pollId amount side)
  | .emergencyWithdraw pollId => .market c.signatures (.emergencyWithdraw c.user pollId)

abbrev view (w : World N) : Ledger where
  now := w.now
  market := w.market
  oracles := w.oracles
  balance := N.balance w.tokens
  events := w.events

section Replies

variable (refusal : Bool → Address → ℤ → Option PredictXError) (signatures : Signatures N)
  (user : Address) (pollId : ℕ) (l : Ledger)

/-- The token asks for the staker's signature and balance; `refusal` is the
error it refuses a payment with. -/
def stakePayment (amount : ℤ) (record : Stake) : Reply PredictXError Value :=
  match l.market.tokenAddress with
  | none => .error .notInitialized
  | some token =>
      if signatures.accepts token user = true ∧ amount ≤ l.balance token user then
        .ok (.stake record)
      else .trap (refusal (signatures.accepts token user) user amount)

def stakeReply (amount : ℤ) (side : StakeSide) : Reply PredictXError Value :=
  if signatures.accepts N.market user = false then .trap none
  else if l.market.isPaused = true then .error .emergencyWithdrawNotAllowed
  else if amount ≤ 0 then .error .stakeAmountZero
  else if amount < minStakeAmount then .error .stakeBelowMinimum
  else
    match l.market.polls.lookup pollId with
    | none => .error .pollNotFound
    | some poll =>
        if poll.status ≠ .active then .error .pollNotActive
        else if poll.lockTime ≤ l.now then .error .pollLocked
        else if (pollId, user) ∈ l.market.hasStaked then .error .alreadyStaked
        else
          stakePayment refusal signatures user l amount ⟨user, pollId, amount, side, false, l.now⟩

/-- A refund that is due is always paid. -/
def withdrawReply : Reply PredictXError Value :=
  if signatures.accepts N.market user = false then .trap none
  else if l.market.hasEmergencyClaimed pollId user = true then .error .alreadyClaimed
  else
    match l.market.votingOracle with
    | none => .error .notInitialized
    | some oracleId =>
        match l.oracles.lookup oracleId with
        | none => .trap none
        | some storage =>
            if ¬ Refundable storage pollId l.now then .error .emergencyWithdrawNotAllowed
            else
              match l.market.stakes.lookup (pollId, user) with
              | none => .error .notStaker
              | some record => .ok (.amount record.amount)

end Replies

def reply (refusal : Bool → Address → ℤ → Option PredictXError) (c : UserCall N) (l : Ledger) :
    Reply PredictXError Value :=
  match c.op with
  | .stake pollId amount side => stakeReply refusal c.signatures c.user pollId l amount side
  | .emergencyWithdraw pollId => withdrawReply c.signatures c.user pollId l

/-- What a stake writes. -/
def placed (now : ℕ) (user : Address) (pollId : ℕ) (amount : ℤ) (side : StakeSide) (m : Market) :
    Market :=
  { m with
    stakes := m.stakes.insert (pollId, user) ⟨user, pollId, amount, side, false, now⟩
    hasStaked := m.hasStaked.insert (pollId, user) true
    polls := modify m.polls pollId (credited · amount side)
    userStakes := m.userStakes.insert user (m.userStakesOf user ++ [pollId])
    platformStats := some
      { m.stats with
        totalValueLocked := m.stats.totalValueLocked + amount
        totalStakesPlaced := m.stats.totalStakesPlaced + 1 } }

theorem poll_placed {m : Market} {pollId : ℕ} {poll : Poll}
    (found : m.polls.lookup pollId = some poll) (now : ℕ) (user : Address) (amount : ℤ)
    (side : StakeSide) : (placed now user pollId amount side m).polls.lookup pollId =
      some (credited poll amount side) := by
  rw [placed, modify_of_lookup found]
  exact Finmap.lookup_insert _

def paid (l : Ledger) (src dst : Address) (amount : ℤ) (token holder : Address) : ℤ :=
  l.balance token holder +
    if l.market.tokenAddress = some token then moved src dst holder amount else 0

def stakeEffect (contract user : Address) (pollId : ℕ) (amount : ℤ) (side : StakeSide)
    (l : Ledger) : Ledger :=
  { l with
    market := placed l.now user pollId amount side l.market
    balance := paid l user contract amount
    events := l.events + {.stakePlaced pollId user amount side} }

def withdrawEffect (contract user : Address) (pollId : ℕ) (amount : ℤ) (l : Ledger) : Ledger :=
  { l with
    market := refundedMarket l.market user pollId amount
    balance := paid l contract user amount
    events := l.events + {.emergencyWithdrawal pollId user amount} }

def effect (c : UserCall N) (r : Reply PredictXError Value) (l : Ledger) : Ledger :=
  match c.op, r with
  | .stake pollId amount side, .ok _ => stakeEffect N.market c.user pollId amount side l
  | .emergencyWithdraw pollId, .ok (.amount amount) =>
      withdrawEffect N.market c.user pollId amount l
  | _, _ => l

section Commutation

variable {user user' : Address}

theorem credited_comm (poll : Poll) (amount amount' : ℤ) (side side' : StakeSide) :
    credited (credited poll amount' side') amount side =
      credited (credited poll amount side) amount' side' := by
  cases side <;> cases side' <;> simp [credited, add_right_comm]

theorem placed_comm (hne : user ≠ user') (now pollId pollId' : ℕ) (amount amount' : ℤ)
    (side side' : StakeSide) (m : Market) :
    placed now user pollId amount side (placed now user' pollId' amount' side' m) =
      placed now user' pollId' amount' side' (placed now user pollId amount side m) := by
  have hkey : (pollId', user') ≠ (pollId, user) := fun h => hne (Prod.mk.inj h).2.symm
  have hpolls := modify_comm m.polls pollId pollId' (f := (credited · amount side))
    (g := (credited · amount' side')) fun poll => credited_comm poll amount amount' side side'
  simp only [placed, Market.userStakesOf, Market.stats, lookup_insert_eq, if_neg hne,
    if_neg hne.symm, hpolls, Option.getD_some]
  congr 1
  · congr 2
    exact add_right_comm _ _ _
  · exact Finmap.insert_insert_of_ne _ hkey
  · exact Finmap.insert_insert_of_ne _ hne.symm
  · exact Finmap.insert_insert_of_ne _ hkey

theorem placed_refunded (now pollId pollId' : ℕ) (amount amount' : ℤ) (side : StakeSide)
    (m : Market) :
    placed now user pollId amount side (refundedMarket m user' pollId' amount') =
      refundedMarket (placed now user pollId amount side m) user' pollId' amount' := by
  simp only [placed, refundedMarket, Market.userStakesOf, Market.stats, Option.getD_some]
  congr 3
  exact sub_add_eq_add_sub _ _ _

theorem refundedMarket_comm (hne : user ≠ user') (pollId pollId' : ℕ) (amount amount' : ℤ)
    (m : Market) :
    refundedMarket (refundedMarket m user' pollId' amount') user pollId amount =
      refundedMarket (refundedMarket m user pollId amount) user' pollId' amount' := by
  have hkey : (pollId', user') ≠ (pollId, user) := fun h => hne (Prod.mk.inj h).2.symm
  simp only [refundedMarket, Market.stats, Option.getD_some]
  congr 1
  · congr 2
    exact sub_right_comm _ _ _
  · exact Finmap.insert_insert_of_ne _ hkey

variable {contract : Address}

theorem stakeEffect_comm (hne : user ≠ user') (pollId pollId' : ℕ) (amount amount' : ℤ)
    (side side' : StakeSide) (l : Ledger) :
    stakeEffect contract user pollId amount side
        (stakeEffect contract user' pollId' amount' side' l) =
      stakeEffect contract user' pollId' amount' side'
        (stakeEffect contract user pollId amount side l) := by
  unfold stakeEffect
  congr 1
  · exact placed_comm hne _ _ _ _ _ _ _ _
  · funext token holder
    exact add_right_comm _ _ _
  · exact add_right_comm _ _ _

theorem stakeEffect_withdrawEffect (pollId pollId' : ℕ) (amount amount' : ℤ) (side : StakeSide)
    (l : Ledger) :
    stakeEffect contract user pollId amount side
        (withdrawEffect contract user' pollId' amount' l) =
      withdrawEffect contract user' pollId' amount'
        (stakeEffect contract user pollId amount side l) := by
  unfold stakeEffect withdrawEffect
  congr 1
  · exact placed_refunded _ _ _ _ _ _ _
  · funext token holder
    exact add_right_comm _ _ _
  · exact add_right_comm _ _ _

theorem withdrawEffect_comm (hne : user ≠ user') (pollId pollId' : ℕ) (amount amount' : ℤ)
    (l : Ledger) :
    withdrawEffect contract user pollId amount
        (withdrawEffect contract user' pollId' amount' l) =
      withdrawEffect contract user' pollId' amount'
        (withdrawEffect contract user pollId amount l) := by
  unfold withdrawEffect
  congr 1
  · exact refundedMarket_comm hne _ _ _ _ _
  · funext token holder
    exact add_right_comm _ _ _
  · exact add_right_comm _ _ _

theorem effect_cases (c : UserCall N) (r : Reply PredictXError Value) :
    (∃ pollId amount side, ∀ l, effect c r l = stakeEffect N.market c.user pollId amount side l) ∨
      (∃ pollId amount, ∀ l, effect c r l = withdrawEffect N.market c.user pollId amount l) ∨
      ∀ l, effect c r l = l := by
  unfold effect
  split
  · exact .inl ⟨_, _, _, fun _ => rfl⟩
  · exact .inr (.inl ⟨_, _, fun _ => rfl⟩)
  · exact .inr (.inr fun _ => rfl)

theorem effect_comm {c d : UserCall N} (hne : c.user ≠ d.user)
    (r r' : Reply PredictXError Value) (l : Ledger) :
    effect c r (effect d r' l) = effect d r' (effect c r l) := by
  rcases effect_cases c r with ⟨p, a, s, hc⟩ | ⟨p, a, hc⟩ | hc
  · rcases effect_cases d r' with ⟨p', a', s', hd⟩ | ⟨p', a', hd⟩ | hd
    · simp only [hc, hd]
      exact stakeEffect_comm hne _ _ _ _ _ _ _
    · simp only [hc, hd]
      exact stakeEffect_withdrawEffect _ _ _ _ _ _
    · simp only [hd]
  · rcases effect_cases d r' with ⟨p', a', s', hd⟩ | ⟨p', a', hd⟩ | hd
    · simp only [hc, hd]
      exact (stakeEffect_withdrawEffect _ _ _ _ _ _).symm
    · simp only [hc, hd]
      exact withdrawEffect_comm hne _ _ _ _ _
    · simp only [hd]
  · simp only [hc]

end Commutation

section Sight

/-- All that the replies to a user depend on is the same. -/
structure SameSight (user : Address) (l l' : Ledger) : Prop where
  now : l'.now = l.now
  oracles : l'.oracles = l.oracles
  paused : l'.market.isPaused = l.market.isPaused
  votingOracle : l'.market.votingOracle = l.market.votingOracle
  tokenAddress : l'.market.tokenAddress = l.market.tokenAddress
  terms : ∀ pollId,
    (l'.market.polls.lookup pollId).map (fun poll => (poll.status, poll.lockTime)) =
      (l.market.polls.lookup pollId).map (fun poll => (poll.status, poll.lockTime))
  stakes : ∀ pollId,
    l'.market.stakes.lookup (pollId, user) = l.market.stakes.lookup (pollId, user)
  hasStaked : ∀ pollId, (pollId, user) ∈ l'.market.hasStaked ↔ (pollId, user) ∈ l.market.hasStaked
  claimed : ∀ pollId,
    l'.market.hasEmergencyClaimed pollId user = l.market.hasEmergencyClaimed pollId user
  balance : ∀ token, l'.balance token user = l.balance token user

variable {user user' contract : Address} {l l' : Ledger}

theorem paid_other {src dst : Address} (hsrc : user ≠ src) (hdst : user ≠ dst) (amount : ℤ)
    (token : Address) : paid l src dst amount token user = l.balance token user := by
  simp [paid, moved, hsrc, hdst]

theorem sameSight_stakeEffect (hne : user ≠ user') (hother : user ≠ contract) (pollId : ℕ)
    (amount : ℤ) (side : StakeSide) :
    SameSight user l (stakeEffect contract user' pollId amount side l) where
  now := rfl
  oracles := rfl
  paused := rfl
  votingOracle := rfl
  tokenAddress := rfl
  terms := by
    intro pollId'
    change ((modify l.market.polls pollId (credited · amount side)).lookup pollId').map _ = _
    rw [lookup_modify]
    split
    · rename_i hpoll
      rw [hpoll, Option.map_map]
      congr 1
      funext poll
      exact Prod.ext (status_credited _ _ _) (lockTime_credited _ _ _)
    · rfl
  stakes := by
    intro pollId'
    exact Finmap.lookup_insert_of_ne _ fun hkey => hne (Prod.mk.inj hkey).2
  hasStaked := by
    intro pollId'
    change (pollId', user) ∈ l.market.hasStaked.insert (pollId, user') true ↔ _
    simp [Finmap.mem_insert, hne]
  claimed := fun _ => rfl
  balance := paid_other hne hother amount

theorem sameSight_withdrawEffect (hne : user ≠ user') (hother : user ≠ contract) (pollId : ℕ)
    (amount : ℤ) : SameSight user l (withdrawEffect contract user' pollId amount l) where
  now := rfl
  oracles := rfl
  paused := rfl
  votingOracle := rfl
  tokenAddress := rfl
  terms := fun _ => rfl
  stakes := fun _ => rfl
  hasStaked := fun _ => Iff.rfl
  claimed := by
    intro pollId'
    simp only [Market.hasEmergencyClaimed, withdrawEffect, refundedMarket, lookup_insert_eq]
    rw [if_neg fun hkey => hne (Prod.mk.inj hkey).2]
  balance := paid_other hother hne amount

theorem stakeReply_eq (h : SameSight user l l')
    (refusal : Bool → Address → ℤ → Option PredictXError) (signatures : Signatures N)
    (pollId : ℕ) (amount : ℤ) (side : StakeSide) :
    stakeReply refusal signatures user pollId l' amount side =
      stakeReply refusal signatures user pollId l amount side := by
  have hterms := h.terms pollId
  unfold stakeReply stakePayment
  rw [h.paused, h.tokenAddress, h.now]
  simp only [h.hasStaked, h.balance]
  cases hpoll : l.market.polls.lookup pollId with
  | none =>
      rw [hpoll, Option.map_none, Option.map_eq_none_iff] at hterms
      rw [hterms]
  | some poll =>
      rw [hpoll, Option.map_some, Option.map_eq_some_iff] at hterms
      obtain ⟨poll', hpoll', hsame⟩ := hterms
      obtain ⟨hstatus, hlock⟩ := Prod.mk.inj hsame
      rw [hpoll']
      simp only [hstatus, hlock]

theorem withdrawReply_eq (h : SameSight user l l') (signatures : Signatures N) (pollId : ℕ) :
    withdrawReply signatures user pollId l' = withdrawReply signatures user pollId l := by
  unfold withdrawReply
  rw [h.votingOracle, h.oracles, h.now, h.claimed, h.stakes]

end Sight

theorem independent (refusal : Bool → Address → ℤ → Option PredictXError) {c d : UserCall N}
    (hne : c.user ≠ d.user) (hother : c.user ≠ N.market) :
    Independent (reply refusal) effect c d where
  effect_comm := effect_comm hne
  reply_eq := by
    intro r l
    have hsight : SameSight c.user l (effect d r l) := by
      rcases effect_cases d r with ⟨p, a, s, hd⟩ | ⟨p, a, hd⟩ | hd
      · rw [hd]
        exact sameSight_stakeEffect hne hother p a s
      · rw [hd]
        exact sameSight_withdrawEffect hne hother p a
      · rw [hd]
        exact ⟨rfl, rfl, rfl, rfl, rfl, fun _ => rfl, fun _ => rfl, fun _ => Iff.rfl,
          fun _ => rfl, fun _ => rfl⟩
    unfold reply
    split
    · exact stakeReply_eq hsight _ _ _ _ _
    · exact withdrawReply_eq hsight _ _

end PredictX.UserCalls
