import PredictX.Footprints
import PredictX.PollFreeze
import PredictX.WinningsPreview

namespace PredictX.PreviewMonotonicity

open PredictX.AdminAuthority
open PredictX.Bookkeeping
open PredictX.CommittedCalls
open PredictX.Footprints
open PredictX.HostCall
open PredictX.HostCall.Call
open PredictX.LabelledRuns
open PredictX.MarketStorage
open PredictX.PollFreeze
open PredictX.PredictionMarket
open PredictX.ProportionalShares
open PredictX.SharedTypes
open PredictX.SorobanHost
open PredictX.Staking
open PredictX.System
open PredictX.TokenContracts
open PredictX.WinningsPreview

variable {N : Network}

theorem pool_opposite (poll : Poll) (side : StakeSide) :
    poolOnSide poll side + poolOnSide poll side.opposite = poll.yesPool + poll.noPool := by
  cases side with
  | yes => rfl
  | no => exact add_comm _ _

/-- The products of this preview stay within their type. -/
def PreviewFits (w : World N) (pollId : ℕ) (side : StakeSide) (amount : ℤ) : Prop :=
  ∃ poll, w.market.polls.lookup pollId = some poll ∧
    ProductsFit amount (poll.yesPool + poll.noPool + amount) (keptBps w.market)
      (poolOnSide poll side + amount)

theorem productsFit_mono {amount amount' totalPool totalPool' kept onSide onSide' : ℤ}
    (hamount : 0 ≤ amount) (hle : amount ≤ amount') (htotal : 0 ≤ totalPool)
    (htotal' : totalPool ≤ totalPool') (hkept : 0 ≤ kept) (hpool : onSide ≤ onSide')
    (h : ProductsFit amount' totalPool' kept onSide') :
    ProductsFit amount totalPool kept onSide := by
  obtain ⟨hgross, hnet, hdivisor⟩ := h
  have hprod : amount * totalPool ≤ amount' * totalPool' :=
    mul_le_mul hle htotal' htotal (hamount.trans hle)
  refine ⟨hprod.trans_lt hgross, ?_, ?_⟩
  · exact (mul_le_mul_of_nonneg_right hprod hkept).trans_lt hnet
  · exact (mul_le_mul_of_nonneg_right hpool (Int.natCast_nonneg _)).trans_lt hdivisor

section Reads

/-- The preview looks at its poll and at the fee. -/
def SamePreview (pollId : ℕ) (w w' : World N) : Prop :=
  w'.market.polls.lookup pollId = w.market.polls.lookup pollId ∧
    w'.market.platformFeeBps = w.market.platformFeeBps

theorem determinedBy_checkedI128 {R : World N → World N → Prop} (x : ℤ) :
    DeterminedBy R (checkedI128 x : MarketCall N ℤ) :=
  (determinedBy_require _).bind fun _ => determinedBy_pure _

theorem determinedBy_preview (pollId : ℕ) (side : StakeSide) (amount : ℤ) :
    DeterminedBy (SamePreview pollId)
      (calculatePotentialWinnings pollId side amount : MarketCall N ℤ) := by
  refine (determinedBy_failIf _ _).bind fun _ => ?_
  refine (determinedBy_load fun _ _ h => h.1.symm).bind fun stored => ?_
  refine (determinedBy_okOr _ _).bind fun poll => ?_
  refine (determinedBy_checkedI128 _).bind fun poolOnSideAfter => ?_
  refine (determinedBy_checkedI128 _).bind fun totalPool => ?_
  refine (determinedBy_checkedI128 _).bind fun totalPoolAfter => ?_
  refine (determinedBy_load fun _ _ h => ?_).bind fun feeBps => ?_
  · rw [h.2]
  refine ((determinedBy_require _).bind fun _ => determinedBy_pure _).bind fun feeFactor => ?_
  refine (determinedBy_checkedI128 _).bind fun gross => ?_
  refine (determinedBy_checkedI128 _).bind fun net => ?_
  refine (determinedBy_checkedI128 _).bind fun divisor => ?_
  exact (determinedBy_require _).bind fun _ => determinedBy_checkedI128 _

theorem query_preview_eq {pollId : ℕ} {w w' : World N} (h : SamePreview pollId w w')
    (side : StakeSide) (amount : ℤ) :
    query w' (calculatePotentialWinnings pollId side amount) =
      query w (calculatePotentialWinnings pollId side amount) := by
  unfold query
  rw [commit_fst, commit_fst]
  exact ((determinedBy_preview pollId side amount).reply_eq h _ _).symm

end Reads

section Later

variable {x : Execution N} {pollId : ℕ} {poll poll' : Poll} {later : List (Action N)}

theorem fee_later (x : Execution N) (found : x.final.market.polls.lookup pollId = some poll)
    (later : List (Action N)) :
    (x.andThen later).final.market.platformFeeBps = x.final.market.platformFeeBps := by
  cases hadmin : x.final.market.admin with
  | none =>
      rw [((consistent_run x).unconfigured hadmin).2] at found
      simp at found
  | some admin =>
      exact congrArg (fun c => c.2.2.2) (configuration_later x hadmin later)

theorem pool_later (found : x.final.market.polls.lookup pollId = some poll)
    (found' : (x.andThen later).final.market.polls.lookup pollId = some poll') {side : StakeSide}
    (hall : ∀ e ∈ trace step x.final later, placedSide pollId e ≠ some side) :
    poolOnSide poll' side = poolOnSide poll side := by
  have hrun : ∃ stored, (x.andThen later).final.market.polls.lookup pollId = some stored ∧
      poolOnSide stored side = poolOnSide poll side := by
    rw [Execution.final_andThen]
    refine (invariant_run (P := fun w : World N => ∃ stored,
      w.market.polls.lookup pollId = some stored ∧ poolOnSide stored side = poolOnSide poll side)
      (consistent_run x) ⟨poll, found, rfl⟩ ?_ hall).1
    rintro w a reply w' hcons hstep hother ⟨stored, hstored, hpool⟩
    rcases placed_step hcons hstep hstored with
      ⟨-, hsame⟩ | ⟨side', amount, hside, -, -, hcredited⟩
    · exact ⟨stored, hsame, hpool⟩
    · refine ⟨_, hcredited, ?_⟩
      rw [pool_credited, if_neg, add_zero, hpool]
      rintro rfl
      exact hother hside
  obtain ⟨stored, hstored, hpool⟩ := hrun
  cases found'.symm.trans hstored
  exact hpool

theorem poll_later (found : x.final.market.polls.lookup pollId = some poll)
    (hall : ∀ e ∈ trace step x.final later, placedSide pollId e = none) :
    (x.andThen later).final.market.polls.lookup pollId = some poll := by
  rw [Execution.final_andThen]
  refine (invariant_run (P := fun w : World N => w.market.polls.lookup pollId = some poll)
    (consistent_run x) found ?_ hall).1
  intro w a reply w' hcons hstep hnone hpoll
  rcases placed_step hcons hstep hpoll with ⟨-, hsame⟩ | ⟨side, amount, hside, -⟩
  · exact hsame
  · cases hnone.symm.trans hside

end Later

section Values

variable {pollId : ℕ} {poll poll' : Poll} {side : StakeSide} {amount : ℤ}

theorem preview_mono_amount {w : World N} (hcons : Consistent N.market w.market)
    (fee_le : feeBps w.market ≤ bpsDenominator) {amount' : ℤ} (hamount : 0 < amount)
    (hle : amount ≤ amount') (hfits : PreviewFits w pollId side amount') :
    ∃ value value', query w (calculatePotentialWinnings pollId side amount) = .ok value ∧
      query w (calculatePotentialWinnings pollId side amount') = .ok value' ∧
      value ≤ value' := by
  obtain ⟨poll, found, fits⟩ := hfits
  obtain ⟨hyes, hno, hpool, hpools⟩ := pools_bounds hcons found side
  have hkept := keptBps_nonneg fee_le
  have hamount' := hamount.trans_le hle
  have fits_small : ProductsFit amount (poll.yesPool + poll.noPool + amount)
      (keptBps w.market) (poolOnSide poll side + amount) := by
    apply productsFit_mono _ hle _ _ hkept _ fits <;> omega
  refine ⟨_, _, query_fits hcons fee_le found hamount fits_small,
    query_fits hcons fee_le found hamount' fits, ?_⟩
  rw [previewed_eq hyes hno hamount hkept, previewed_eq hyes hno hamount' hkept]
  exact share_mono hamount hle hpool hpools hkept (by decide)

theorem previewed_same_side {kept : ℤ} (hgrown : Grown poll poll')
    (hyes : 0 ≤ poll.yesPool) (hno : 0 ≤ poll.noPool) (hamount : 0 < amount) (hkept : 0 ≤ kept)
    (hother : poolOnSide poll' side.opposite = poolOnSide poll side.opposite) :
    previewed kept poll' side amount ≤ previewed kept poll side amount := by
  obtain ⟨hpool, hpools⟩ := pool_le hyes hno side
  have hgrows := hgrown.pool_le side
  have hsides := pool_opposite poll side
  have hsides' := pool_opposite poll' side
  have hown : poolOnSide poll' side + amount =
      poolOnSide poll side + amount + (poolOnSide poll' side - poolOnSide poll side) := by
    omega
  have htotal : poll'.yesPool + poll'.noPool + amount =
      poll.yesPool + poll.noPool + amount + (poolOnSide poll' side - poolOnSide poll side) := by
    omega
  rw [previewed_eq hyes hno hamount hkept, previewed_eq (hyes.trans (hgrown.pool_le .yes))
    (hno.trans (hgrown.pool_le .no)) hamount hkept, hown, htotal]
  exact share_diluted hamount.le (by omega) (by omega) (by omega) hkept (by decide)

theorem previewed_other_side {kept : ℤ} (hgrown : Grown poll poll')
    (hyes : 0 ≤ poll.yesPool) (hno : 0 ≤ poll.noPool) (hamount : 0 < amount) (hkept : 0 ≤ kept)
    (hown : poolOnSide poll' side = poolOnSide poll side) :
    previewed kept poll side amount ≤ previewed kept poll' side amount := by
  obtain ⟨hpool, hpools⟩ := pool_le hyes hno side
  have hgrows := hgrown.pool_le side.opposite
  have hsides := pool_opposite poll side
  have hsides' := pool_opposite poll' side
  have htotal : poll'.yesPool + poll'.noPool + amount = poll.yesPool + poll.noPool + amount +
      (poolOnSide poll' side.opposite - poolOnSide poll side.opposite) := by
    omega
  rw [previewed_eq hyes hno hamount hkept, previewed_eq (hyes.trans (hgrown.pool_le .yes))
    (hno.trans (hgrown.pool_le .no)) hamount hkept, hown, htotal]
  exact share_enriched hamount.le (by omega) (by omega) hkept (by decide)

theorem previews_defined (x : Execution N) (fee_le : feeBps x.final.market ≤ bpsDenominator)
    (found : x.final.market.polls.lookup pollId = some poll) (hamount : 0 < amount)
    {later : List (Action N)} (hfits : PreviewFits (x.andThen later).final pollId side amount) :
    ∃ poll', (x.andThen later).final.market.polls.lookup pollId = some poll' ∧
      Grown poll poll' ∧
      query x.final (calculatePotentialWinnings pollId side amount) =
        .ok (previewed (keptBps x.final.market) poll side amount) ∧
      query (x.andThen later).final (calculatePotentialWinnings pollId side amount) =
        .ok (previewed (keptBps x.final.market) poll' side amount) := by
  obtain ⟨poll', found', fits'⟩ := hfits
  obtain ⟨stored, hstored, hgrown⟩ := grown_later x found later
  cases found'.symm.trans hstored
  have hfee : feeBps (x.andThen later).final.market = feeBps x.final.market := by
    rw [feeBps, feeBps, fee_later x found later]
  have hkept : keptBps (x.andThen later).final.market = keptBps x.final.market := by
    rw [keptBps, keptBps, hfee]
  have fee_le' : feeBps (x.andThen later).final.market ≤ bpsDenominator := hfee.trans_le fee_le
  have hthen := query_fits (consistent_run _) fee_le' found' hamount fits'
  rw [hkept] at hthen fits'
  obtain ⟨hyes, hno, -⟩ := pools_bounds (consistent_run x) found side
  have hgrows := hgrown.pool_le side
  have hgrows_yes := hgrown.yesPool_le
  have hgrows_no := hgrown.noPool_le
  have fits : ProductsFit amount (poll.yesPool + poll.noPool + amount)
      (keptBps x.final.market) (poolOnSide poll side + amount) := by
    apply productsFit_mono hamount.le le_rfl _ _ (keptBps_nonneg fee_le) _ fits' <;> omega
  exact ⟨poll', found', hgrown, query_fits (consistent_run x) fee_le found hamount fits, hthen⟩

end Values

/-- The preview does not fall with the amount.  In what follows it stays as it
is while nobody stakes on the poll, does not rise if all stakes are on its own
side, and does not fall if all are on the other. -/
theorem preview_monotone (x : Execution N) {pollId : ℕ} {poll : Poll} (side : StakeSide)
    (fee_le : feeBps x.final.market ≤ bpsDenominator)
    (found : x.final.market.polls.lookup pollId = some poll) :
    (∀ amount amount', 0 < amount → amount ≤ amount' → PreviewFits x.final pollId side amount' →
      ∃ value value', query x.final (calculatePotentialWinnings pollId side amount) = .ok value ∧
        query x.final (calculatePotentialWinnings pollId side amount') = .ok value' ∧
        value ≤ value') ∧
      ∀ later amount,
        ((∀ e ∈ trace step x.final later, placedSide pollId e = none) →
          query (x.andThen later).final (calculatePotentialWinnings pollId side amount) =
            query x.final (calculatePotentialWinnings pollId side amount)) ∧
        (0 < amount → PreviewFits (x.andThen later).final pollId side amount →
          ∃ value value',
            query x.final (calculatePotentialWinnings pollId side amount) = .ok value ∧
            query (x.andThen later).final (calculatePotentialWinnings pollId side amount) =
              .ok value' ∧
            ((∀ e ∈ trace step x.final later, placedSide pollId e ≠ some side.opposite) →
              value' ≤ value) ∧
            ((∀ e ∈ trace step x.final later, placedSide pollId e ≠ some side) →
              value ≤ value')) := by
  have hcons := consistent_run x
  constructor
  · intro amount amount' hamount hle fits
    exact preview_mono_amount hcons fee_le hamount hle fits
  intro later amount
  constructor
  · intro hall
    have hpoll := (poll_later found hall).trans found.symm
    exact query_preview_eq ⟨hpoll, fee_later x found later⟩ side amount
  · intro hamount hfits
    obtain ⟨poll', found', hgrown, hnow, hthen⟩ := previews_defined x fee_le found hamount hfits
    obtain ⟨hyes, hno, -⟩ := pools_bounds hcons found side
    have hkept := keptBps_nonneg fee_le
    refine ⟨_, _, hnow, hthen, ?_, ?_⟩
    · intro hall
      exact previewed_same_side hgrown hyes hno hamount hkept (pool_later found found' hall)
    · intro hall
      exact previewed_other_side hgrown hyes hno hamount hkept (pool_later found found' hall)

/-- One stake on the side `yes` of poll 1, with another to come. -/
def oneSideRun : Execution sampleNetwork :=
  sampleRun [.market allSign (.stake ⟨5⟩ 1 20000000 .yes)]

def oneSidePoll : Poll := { emptyPoll with yesPool := 20000000, yesCount := 1 }

theorem preview_monotone_sample :
    (∃ value value',
      query oneSideRun.final (calculatePotentialWinnings 1 .yes 20000000) = .ok value ∧
        query oneSideRun.final (calculatePotentialWinnings 1 .yes 30000000) = .ok value' ∧
        value ≤ value') ∧
      ∃ value value',
        query oneSideRun.final (calculatePotentialWinnings 1 .yes 20000000) = .ok value ∧
          query sidesRun.final (calculatePotentialWinnings 1 .yes 20000000) = .ok value' ∧
          value' ≤ value := by
  have found : oneSideRun.final.market.polls.lookup 1 = some oneSidePoll := by
    decide +kernel
  have found' : sidesRun.final.market.polls.lookup 1 = some sidesPoll := by
    decide +kernel
  obtain ⟨hamounts, hlater⟩ := preview_monotone oneSideRun .yes (by decide +kernel) found
  refine ⟨hamounts 20000000 30000000 (by decide) (by decide)
    ⟨oneSidePoll, found, by decide +kernel⟩, ?_⟩
  obtain ⟨value, value', hvalue, hvalue', hfall, -⟩ :=
    (hlater [.market allSign (.stake ⟨6⟩ 1 30000001 .yes)] 20000000).2 (by decide)
      ⟨sidesPoll, found', by decide +kernel⟩
  exact ⟨value, value', hvalue, hvalue', hfall (by decide +kernel)⟩

end PredictX.PreviewMonotonicity
