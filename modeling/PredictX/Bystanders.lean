import PredictX.System

namespace PredictX.Bystanders

open PredictX.CommittedCalls
open PredictX.FiniteStore
open PredictX.HostCall
open PredictX.MarketStorage
open PredictX.PredictionMarket
open PredictX.SharedTypes
open PredictX.SorobanHost
open PredictX.System
open PredictX.TokenContracts

variable {N : Network}

/-- The action is a call to the market or an oracle that the user does not
authorise. -/
def Unsigned (user : Address) : Action N → Prop
  | .market signatures _ => signatures.accepts N.market user = false
  | .oracle signatures oracleId _ => signatures.accepts oracleId user = false
  | _ => False

/-- Everything the ledger keeps for a user is the same. -/
structure SameAccount (user : Address) (w w' : World N) : Prop where
  balance : ∀ token, N.balance w'.tokens token user = N.balance w.tokens token user
  stakes : ∀ pollId, w'.market.stakes.lookup (pollId, user) = w.market.stakes.lookup (pollId, user)
  hasStaked : ∀ pollId,
    w'.market.hasStaked.lookup (pollId, user) = w.market.hasStaked.lookup (pollId, user)
  emergencyClaimed : ∀ pollId, w'.market.emergencyClaimed.lookup (pollId, user) =
    w.market.emergencyClaimed.lookup (pollId, user)
  userStakes : w'.market.userStakes.lookup user = w.market.userStakes.lookup user

theorem SameAccount.refl (user : Address) (w : World N) : SameAccount user w w :=
  ⟨fun _ => rfl, fun _ => rfl, fun _ => rfl, fun _ => rfl, rfl⟩

theorem ne_of_unsigned {signatures : Signatures N} {now : ℕ} {user signer : Address}
    (unsigned : signatures.accepts N.market user = false)
    (authorised : (callEnv N.market signatures now).authorises signer = true) : user ≠ signer := by
  rintro rfl
  rw [callEnv_authorises, unsigned] at authorised
  exact Bool.false_ne_true authorised

theorem balance_other {s s' : N.State} {token src dst holder : Address} {signed : Bool}
    {amount : ℤ} (h : N.transfer s token signed src dst amount = some s')
    (hsrc : holder ≠ src) (hdst : holder ≠ dst) (token' : Address) :
    N.balance s' token' holder = N.balance s token' holder := by
  rw [N.transfer_balance h]
  simp [moved, hsrc, hdst]

theorem bystander_step {w w' : World N} {a : Action N} {reply : Reply PredictXError Value}
    (hstep : Step w a reply w') {user : Address} (other : user ≠ N.market)
    (unsigned : Unsigned user a) : SameAccount user w w' := by
  have hidle := SameAccount.refl user w
  cases hstep with
  | market committed =>
      cases committed with
      | emergencyWithdraw authorised _ _ _ _ _ _ transferred =>
          have hne := ne_of_unsigned unsigned authorised
          refine { hidle with balance := balance_other transferred other hne, emergencyClaimed := ?_ }
          intro pollId
          rw [refundedMarket, lookup_insert_eq, if_neg fun hkey => hne (Prod.mk.inj hkey).2]
      | stake authorised _ _ _ _ _ _ _ transferred _ record_eq =>
          subst record_eq
          have hne := ne_of_unsigned unsigned authorised
          refine ⟨balance_other transferred hne other, ?_, ?_, fun _ => rfl, ?_⟩
          · intro pollId
            rw [stakes_staked, if_neg fun hkey => hne (Prod.mk.inj hkey).2]
          · intro pollId
            rw [stakedMarket, lookup_insert_eq, if_neg fun hkey => hne (Prod.mk.inj hkey).2]
          · rw [stakedMarket, lookup_insert_eq, if_neg hne]
      | _ => exact { hidle with }
  | elapse => exact unsigned.elim
  | outside => exact unsigned.elim
  | _ => exact { hidle with }

/-- A call to the market or an oracle leaves the balances, stakes, flags and
lists of everybody who did not sign it as they were. -/
theorem bystander_untouched (w : World N) {a : Action N} {user : Address}
    (other : user ≠ N.market) (unsigned : Unsigned user a) :
    (∀ token, N.balance (step w a).2.tokens token user = N.balance w.tokens token user) ∧
      (∀ pollId,
        (step w a).2.market.stakes.lookup (pollId, user) =
            w.market.stakes.lookup (pollId, user) ∧
          (step w a).2.market.hasStaked.lookup (pollId, user) =
            w.market.hasStaked.lookup (pollId, user) ∧
          (step w a).2.market.emergencyClaimed.lookup (pollId, user) =
            w.market.emergencyClaimed.lookup (pollId, user)) ∧
      (step w a).2.market.userStakes.lookup user = w.market.userStakes.lookup user := by
  have hsame := bystander_step (step_cases w a) other unsigned
  refine ⟨hsame.balance, ?_, hsame.userStakes⟩
  intro pollId
  exact ⟨hsame.stakes pollId, hsame.hasStaked pollId, hsame.emergencyClaimed pollId⟩

/-- Only the staker 5 signs. -/
def fiveSigns : Signatures sampleNetwork where
  accepts := fun _ address => decide (address = ⟨5⟩)
  market_silent := by
    intro contract
    rfl

theorem bystander_untouched_sample :
    sampleNetwork.balance (step (sampleRun []).final
        (.market fiveSigns (.stake ⟨5⟩ 1 20000000 .yes))).2.tokens ⟨3⟩ ⟨6⟩ =
      sampleNetwork.balance (sampleRun []).final.tokens ⟨3⟩ ⟨6⟩ := by
  have other : (⟨6⟩ : Address) ≠ sampleNetwork.market := by decide
  have unsigned : Unsigned ⟨6⟩ (.market fiveSigns (.stake ⟨5⟩ 1 20000000 .yes)) := rfl
  exact (bystander_untouched (sampleRun []).final other unsigned).1 ⟨3⟩

end PredictX.Bystanders
