import PredictX.Bystanders
import PredictX.Refunds

namespace PredictX.Wealth

open PredictX.Bookkeeping
open PredictX.Bystanders
open PredictX.CommittedCalls
open PredictX.EscrowRefinement
open PredictX.FiniteStore
open PredictX.HostCall
open PredictX.MarketStorage
open PredictX.PredictionMarket
open PredictX.Refunds
open PredictX.SharedTypes
open PredictX.System
open PredictX.TokenContracts

variable {N : Network}

/-- The amount of a stake of the user that was not paid back. -/
def ownUnclaimed (user : Address) (m : Market) (k : ℕ × Address) (record : Stake) : ℤ :=
  if k.2 = user then unclaimedAmount m k record else 0

/-- The user's tokens, at hand and staked. -/
def wealth (token user : Address) (w : World N) : ℤ :=
  N.balance w.tokens token user + total (ownUnclaimed user w.market) w.market.stakes

/-- What a transaction outside the market changed about a balance. -/
def outsideChange (token user : Address) (e : Transaction N) : ℤ :=
  match e.input with
  | .outside _ => N.balance e.after.tokens token user - N.balance e.before.tokens token user
  | _ => 0

theorem ownUnclaimed_staked {contract : Address} {m : Market} (hcons : Consistent contract m)
    (record : Stake) (fresh : (record.pollId, record.user) ∉ m.hasStaked) (poll : Poll)
    (user : Address) :
    total (ownUnclaimed user (stakedMarket m poll record)) (stakedMarket m poll record).stakes =
      total (ownUnclaimed user m) m.stakes + if record.user = user then record.amount else 0 := by
  have hnone := hcons.stakes_fresh fresh
  have hunclaimed := hcons.unclaimed_fresh hnone
  change total (ownUnclaimed user m) (m.stakes.insert (record.pollId, record.user) record) = _
  rw [total_insert_new _ _ hnone, ownUnclaimed]
  simp [unclaimedAmount, hunclaimed]

theorem ownUnclaimed_refunded {m : Market} {user : Address} {pollId : ℕ} {record : Stake}
    (staked : m.stakes.lookup (pollId, user) = some record)
    (unclaimed : m.hasEmergencyClaimed pollId user = false) (owner : Address) :
    total (ownUnclaimed owner (refundedMarket m user pollId record.amount)) m.stakes =
      total (ownUnclaimed owner m) m.stakes - if user = owner then record.amount else 0 := by
  have hsum : total (ownUnclaimed owner (refundedMarket m user pollId record.amount)) m.stakes +
        weightAt (ownUnclaimed owner m) m.stakes (pollId, user) =
      total (ownUnclaimed owner m) m.stakes +
        weightAt (ownUnclaimed owner (refundedMarket m user pollId record.amount)) m.stakes
          (pollId, user) := by
    apply total_reweight (pollId, user)
    intro k record' hne
    simp [ownUnclaimed, unclaimedAmount, hasEmergencyClaimed_refunded, hne]
  rw [weightAt_of_lookup _ staked, weightAt_of_lookup _ staked] at hsum
  simp only [ownUnclaimed, unclaimedAmount, hasEmergencyClaimed_refunded, unclaimed, if_true,
    Bool.false_eq_true, if_false, ite_self, add_zero] at hsum
  omega

theorem wealth_step {w w' : World N} {a : Action N} {reply : Reply PredictXError Value}
    {token user : Address} (hcons : Consistent N.market w.market) (hstep : Step w a reply w')
    (htoken : ∀ t, w.market.tokenAddress = some t → t = token) (other : user ≠ N.market) :
    wealth token user w' = wealth token user w + outsideChange token user ⟨w, a, reply, w'⟩ := by
  have hidle : ∀ {w'' : World N}, w''.market.stakes = w.market.stakes →
      w''.market.emergencyClaimed = w.market.emergencyClaimed → w''.tokens = w.tokens →
      wealth token user w'' = wealth token user w + 0 := by
    intro w'' hstakes hclaimed htokens
    have hown : ownUnclaimed user w''.market = ownUnclaimed user w.market := by
      funext k record
      unfold ownUnclaimed unclaimedAmount Market.hasEmergencyClaimed
      rw [hclaimed]
    rw [add_zero, wealth, wealth, hown, hstakes, htokens]
  cases hstep with
  | rejected => cases a <;> simp [outsideChange]
  | outside =>
      simp only [wealth, outsideChange]
      omega
  | market committed =>
      cases committed with
      | @stake staker _ _ amount _ poll record _ authorised _ _ _ _ _ fresh token_found transferred
          _ record_eq =>
          subst record_eq
          obtain rfl := htoken _ token_found
          have not_self := signer_ne_market authorised
          simp only [wealth, outsideChange, ownUnclaimed_staked hcons ⟨_, _, _, _, _, _⟩ fresh]
          split
          · rename_i huser
            subst huser
            rw [N.balance_src transferred not_self]
            omega
          · rename_i huser
            rw [balance_other transferred (Ne.symm huser) other]
            omega
      | @emergencyWithdraw withdrawer _ _ _ _ record _ _ unclaimed _ _ _ staked token_found
          transferred =>
          obtain rfl := htoken _ token_found
          have not_self := (hcons.record _ _ _ staked).not_self
          simp only [wealth, outsideChange]
          change _ + total (ownUnclaimed user (refundedMarket w.market _ _ _)) w.market.stakes = _
          rw [ownUnclaimed_refunded staked unclaimed]
          split
          · rename_i huser
            subst huser
            rw [N.balance_dst transferred (Ne.symm not_self)]
            omega
          · rename_i huser
            rw [balance_other transferred other (Ne.symm huser)]
            omega
      | _ => exact hidle rfl rfl rfl
  | _ => exact hidle rfl rfl rfl

theorem balance_step {w w' : World N} {a : Action N} {reply : Reply PredictXError Value}
    {token : Address} (hstep : Step w a reply w') (htoken : w.market.tokenAddress ≠ some token)
    (user : Address) :
    N.balance w'.tokens token user =
      N.balance w.tokens token user + outsideChange token user ⟨w, a, reply, w'⟩ := by
  cases hstep with
  | rejected => cases a <;> simp [outsideChange]
  | outside =>
      simp only [outsideChange]
      omega
  | market committed =>
      cases committed with
      | stake _ _ _ _ _ _ _ token_found transferred =>
          simp only [outsideChange, add_zero]
          exact N.balance_elsewhere transferred (fun heq => htoken (by rw [heq, token_found])) user
      | emergencyWithdraw _ _ _ _ _ _ token_found transferred =>
          simp only [outsideChange, add_zero]
          exact N.balance_elsewhere transferred (fun heq => htoken (by rw [heq, token_found])) user
      | _ => exact (add_zero _).symm
  | _ => exact (add_zero _).symm

/-- Over a whole run a user's tokens, at hand and staked, change only by what
happens outside the market: nobody wins or loses anything in it.  Balances in
other tokens, the market's own included, change only outside of it. -/
theorem wealth_conserved (x : Execution N) (user : Address) :
    (user ≠ N.market → ∀ token, x.final.market.tokenAddress = some token →
      wealth token user x.final = N.balance x.tokens token user +
        (x.history.map (outsideChange token user)).sum) ∧
      ∀ token, x.final.market.tokenAddress ≠ some token →
        N.balance x.final.tokens token user = N.balance x.tokens token user +
          (x.history.map (outsideChange token user)).sum := by
  have hsum : ∀ (token : Address) (h : List (Transaction N)) (e : Transaction N),
      ((h ++ [e]).map (outsideChange token user)).sum =
        (h.map (outsideChange token user)).sum + outsideChange token user e := by
    simp
  constructor
  · intro other token htoken
    refine (x.induction (P := fun h w => Consistent N.market w.market ∧
      ((∀ t, w.market.tokenAddress = some t → t = token) →
        wealth token user w = N.balance x.tokens token user +
          (h.map (outsideChange token user)).sum)) ?_ ?_).2 ?_
    · refine ⟨consistent_deployed _, fun _ => ?_⟩
      simp [wealth, genesis, Market.deployed]
    · rintro h w a ⟨hcons, ih⟩
      have hstep := step_cases w a
      refine ⟨consistent_step hcons hstep, fun hconfigured => ?_⟩
      have hbefore : ∀ t, w.market.tokenAddress = some t → t = token :=
        fun t ht => hconfigured t (token_kept hcons hstep ht)
      rw [hsum, ← add_assoc, ← ih hbefore]
      exact wealth_step hcons hstep hbefore other
    · intro t ht
      rw [htoken] at ht
      exact (Option.some.inj ht).symm
  · intro token htoken
    refine (x.induction (P := fun h w => Consistent N.market w.market ∧
      (w.market.tokenAddress ≠ some token →
        N.balance w.tokens token user = N.balance x.tokens token user +
          (h.map (outsideChange token user)).sum)) ?_ ?_).2 htoken
    · refine ⟨consistent_deployed _, fun _ => ?_⟩
      simp [genesis]
    · rintro h w a ⟨hcons, ih⟩
      have hstep := step_cases w a
      refine ⟨consistent_step hcons hstep, fun hconfigured => ?_⟩
      have hbefore : w.market.tokenAddress ≠ some token :=
        fun ht => hconfigured (token_kept hcons hstep ht)
      rw [hsum, ← add_assoc, ← ih hbefore]
      exact balance_step hstep hbefore user

theorem wealth_conserved_sample :
    wealth ⟨3⟩ ⟨5⟩ cancelledRun.final = sampleNetwork.balance sampleTokens ⟨3⟩ ⟨5⟩ +
      (cancelledRun.history.map (outsideChange ⟨3⟩ ⟨5⟩)).sum := by
  have other : (⟨5⟩ : Address) ≠ sampleNetwork.market := by decide
  exact (wealth_conserved cancelledRun ⟨5⟩).1 other ⟨3⟩ (by decide +kernel)

end PredictX.Wealth
