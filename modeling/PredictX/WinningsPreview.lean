import PredictX.AdminAuthority
import PredictX.ProportionalShares

namespace PredictX.WinningsPreview

open PredictX.AdminAuthority
open PredictX.Bookkeeping
open PredictX.CommittedCalls
open PredictX.FiniteStore
open PredictX.HostCall
open PredictX.HostCall.Call
open PredictX.LabelledRuns
open PredictX.MarketStorage
open PredictX.PredictionMarket
open PredictX.ProportionalShares
open PredictX.SharedTypes
open PredictX.SorobanHost
open PredictX.Staking
open PredictX.System
open PredictX.TokenContracts
open PredictX.TokenUtils

variable {N : Network}

/-- The fee in force: the stored one, or the default. -/
def feeBps (m : Market) : ℕ := m.platformFeeBps.getD platformFeeBps

/-- What the fee leaves of a whole, in basis points. -/
def keptBps (m : Market) : ℤ := bpsDenominator - feeBps m

/-- What an amount on a side of the poll is shown to bring. -/
def previewed (kept : ℤ) (poll : Poll) (side : StakeSide) (amount : ℤ) : ℤ :=
  (amount * (poll.yesPool + poll.noPool + amount) * kept).tdiv
    ((poolOnSide poll side + amount) * bpsDenominator)

/-- The products of the preview stay within their type. -/
def ProductsFit (amount totalPool kept onSide : ℤ) : Prop :=
  amount * totalPool < 2 ^ 127 ∧ amount * totalPool * kept < 2 ^ 127 ∧
    onSide * bpsDenominator < 2 ^ 127

theorem keptBps_nonneg {m : Market} (fee_le : feeBps m ≤ bpsDenominator) : 0 ≤ keptBps m := by
  unfold keptBps
  omega

theorem pool_le {poll : Poll} (hyes : 0 ≤ poll.yesPool) (hno : 0 ≤ poll.noPool)
    (side : StakeSide) :
    0 ≤ poolOnSide poll side ∧ poolOnSide poll side ≤ poll.yesPool + poll.noPool := by
  cases side <;> simp only [poolOnSide] <;> omega

theorem previewed_eq {kept : ℤ} {poll : Poll} {amount : ℤ} (hyes : 0 ≤ poll.yesPool)
    (hno : 0 ≤ poll.noPool) (hamount : 0 < amount) (hkept : 0 ≤ kept) (side : StakeSide) :
    previewed kept poll side amount = amount * (poll.yesPool + poll.noPool + amount) * kept /
      ((poolOnSide poll side + amount) * bpsDenominator) := by
  apply Int.tdiv_eq_ediv_of_nonneg
  apply mul_nonneg (mul_nonneg hamount.le _) hkept
  omega

theorem inI128_of_nonneg {x : ℤ} (h : 0 ≤ x) : InI128 x ↔ x < 2 ^ 127 := by
  unfold InI128
  omega

theorem calculatePotentialWinnings_returns {env : Env} {w w' : World N} {pollId : ℕ}
    {side : StakeSide} {amount value : ℤ} {poll : Poll}
    (found : w.market.polls.lookup pollId = some poll) :
    Returns (calculatePotentialWinnings pollId side amount) env w value w' ↔
      0 < amount ∧ InI128 (poolOnSide poll side + amount) ∧ InI128 (poll.yesPool + poll.noPool) ∧
        InI128 (poll.yesPool + poll.noPool + amount) ∧ feeBps w.market ≤ bpsDenominator ∧
        InI128 (amount * (poll.yesPool + poll.noPool + amount)) ∧
        InI128 (amount * (poll.yesPool + poll.noPool + amount) *
          ((bpsDenominator - feeBps w.market : ℕ) : ℤ)) ∧
        InI128 ((poolOnSide poll side + amount) * bpsDenominator) ∧
        (poolOnSide poll side + amount) * bpsDenominator ≠ 0 ∧
        InI128 (previewed ((bpsDenominator - feeBps w.market : ℕ) : ℤ) poll side amount) ∧
        value = previewed ((bpsDenominator - feeBps w.market : ℕ) : ℤ) poll side amount ∧
        w' = w := by
  simp only [calculatePotentialWinnings, bind_returns, failIf_returns, load_returns,
    okOr_returns, checkedI128_returns, getPlatformFeeBps, checkedSubU32_returns,
    checkedDivI128_returns]
  constructor
  · rintro ⟨_, _, ⟨hamount, rfl⟩, _, _, ⟨rfl, rfl⟩, h⟩
    obtain ⟨_, _, ⟨hpoll, rfl⟩, h⟩ := h
    cases found.symm.trans hpoll
    obtain ⟨_, _, ⟨hside, rfl, rfl⟩, _, _, ⟨hboth, rfl, rfl⟩, h⟩ := h
    obtain ⟨_, _, ⟨hall, rfl, rfl⟩, _, _, ⟨rfl, rfl⟩, h⟩ := h
    obtain ⟨_, _, ⟨hfee, rfl, rfl⟩, _, _, ⟨hgross, rfl, rfl⟩, h⟩ := h
    obtain ⟨_, _, ⟨hnet, rfl, rfl⟩, _, _, ⟨hdivisor, rfl, rfl⟩, hne, hfits, rfl, rfl⟩ := h
    exact ⟨not_le.mp hamount, hside, hboth, hall, hfee, hgross, hnet, hdivisor, hne, hfits, rfl, rfl⟩
  · rintro ⟨hamount, hside, hboth, hall, hfee, hgross, hnet, hdivisor, hne, hfits, rfl, rfl⟩
    refine ⟨(), w', ⟨not_le.mpr hamount, rfl⟩, _, w', ⟨rfl, rfl⟩, poll, w', ⟨found, rfl⟩, ?_⟩
    refine ⟨_, w', ⟨hside, rfl, rfl⟩, _, w', ⟨hboth, rfl, rfl⟩, _, w', ⟨hall, rfl, rfl⟩, ?_⟩
    exact ⟨_, w', ⟨rfl, rfl⟩, _, w', ⟨hfee, rfl, rfl⟩, _, w', ⟨hgross, rfl, rfl⟩, _, w',
      ⟨hnet, rfl, rfl⟩, _, w', ⟨hdivisor, rfl, rfl⟩, hne, hfits, rfl, rfl⟩

/-- On a poll with a positive amount the preview fails only by its fee and its
products: no sum overflows, and the divisor is positive. -/
theorem query_preview {w : World N} {pollId : ℕ} {side : StakeSide} {amount value : ℤ}
    {poll : Poll} (found : w.market.polls.lookup pollId = some poll) (hyes : 0 ≤ poll.yesPool)
    (hno : 0 ≤ poll.noPool) (hamount : 0 < amount) :
    query w (calculatePotentialWinnings pollId side amount) = .ok value ↔
      feeBps w.market ≤ bpsDenominator ∧
        ProductsFit amount (poll.yesPool + poll.noPool + amount) (keptBps w.market)
          (poolOnSide poll side + amount) ∧
        value = amount * (poll.yesPool + poll.noPool + amount) * keptBps w.market /
          ((poolOnSide poll side + amount) * bpsDenominator) := by
  obtain ⟨hpool, hpools⟩ := pool_le hyes hno side
  have hbps : (bpsDenominator : ℤ) = 10000 := rfl
  have hdivisor : 0 < (poolOnSide poll side + amount) * bpsDenominator := by
    apply mul_pos
    · omega
    · omega
  have hgross : poll.yesPool + poll.noPool + amount ≤
      amount * (poll.yesPool + poll.noPool + amount) :=
    le_mul_of_one_le_left (by omega) hamount
  have hcast : feeBps w.market ≤ bpsDenominator →
      ((bpsDenominator - feeBps w.market : ℕ) : ℤ) = keptBps w.market := by
    intro hfee
    exact Nat.cast_sub hfee
  simp only [query_eq_ok, calculatePotentialWinnings_returns found, ProductsFit]
  constructor
  · rintro ⟨_, -, -, -, -, hfee, hgrossFits, hnetFits, hdivisorFits, -, -, hvalue, -⟩
    rw [hcast hfee] at hnetFits hvalue
    rw [previewed_eq hyes hno hamount (keptBps_nonneg hfee)] at hvalue
    exact ⟨hfee, ⟨hgrossFits.2, hnetFits.2, hdivisorFits.2⟩, hvalue⟩
  · rintro ⟨hfee, ⟨hgrossFits, hnetFits, hdivisorFits⟩, hvalue⟩
    have hnet : 0 ≤ amount * (poll.yesPool + poll.noPool + amount) * keptBps w.market :=
      mul_nonneg (by omega) (keptBps_nonneg hfee)
    -- The sums are below the gross product, and the quotient below the net one.
    have hle := Int.ediv_le_self (b := (poolOnSide poll side + amount) * bpsDenominator) hnet
    have hquotient := Int.ediv_nonneg hnet hdivisor.le
    rw [hcast hfee, previewed_eq hyes hno hamount (keptBps_nonneg hfee)]
    refine ⟨w, hamount, ?_, ?_, ?_, hfee, ?_, ?_, ?_, hdivisor.ne', ?_, hvalue, rfl⟩
    all_goals rw [inI128_of_nonneg (by omega)]; omega

theorem sideAmount_nonneg {contract : Address} {m : Market} (hcons : Consistent contract m)
    (pollId : ℕ) (side : StakeSide) (k : ℕ × Address) (record : Stake)
    (staked : m.stakes.lookup k = some record) : 0 ≤ sideAmount pollId side k record := by
  unfold sideAmount
  split
  · exact (hcons.record k.1 k.2 record staked).positive.le
  · exact le_rfl

theorem pool_nonneg {contract : Address} {m : Market} (hcons : Consistent contract m)
    {pollId : ℕ} {poll : Poll} (found : m.polls.lookup pollId = some poll) (side : StakeSide) :
    0 ≤ poolOnSide poll side := by
  rw [(hcons.poll pollId poll found).pool_eq]
  exact total_nonneg (sideAmount_nonneg hcons pollId side)

theorem pools_bounds {contract : Address} {m : Market} (hcons : Consistent contract m)
    {pollId : ℕ} {poll : Poll} (found : m.polls.lookup pollId = some poll) (side : StakeSide) :
    0 ≤ poll.yesPool ∧ 0 ≤ poll.noPool ∧ 0 ≤ poolOnSide poll side ∧
      poolOnSide poll side ≤ poll.yesPool + poll.noPool := by
  have hyes : 0 ≤ poll.yesPool := pool_nonneg hcons found .yes
  have hno : 0 ≤ poll.noPool := pool_nonneg hcons found .no
  exact ⟨hyes, hno, pool_le hyes hno side⟩

theorem query_fits {w : World N} (hcons : Consistent N.market w.market) {pollId : ℕ}
    {poll : Poll} {side : StakeSide} {amount : ℤ} (fee_le : feeBps w.market ≤ bpsDenominator)
    (found : w.market.polls.lookup pollId = some poll) (hamount : 0 < amount)
    (fits : ProductsFit amount (poll.yesPool + poll.noPool + amount) (keptBps w.market)
      (poolOnSide poll side + amount)) :
    query w (calculatePotentialWinnings pollId side amount) =
      .ok (previewed (keptBps w.market) poll side amount) := by
  obtain ⟨hyes, hno, -⟩ := pools_bounds hcons found side
  rw [query_preview found hyes hno hamount]
  exact ⟨fee_le, fits, previewed_eq hyes hno hamount (keptBps_nonneg fee_le) side⟩

theorem stake_ok {w w' : World N} {signatures : Signatures N} {staker : Address} {pollId : ℕ}
    {amount : ℤ} {side : StakeSide} {value : Value}
    (hstep : step w (.market signatures (.stake staker pollId amount side)) = (.ok value, w')) :
    ∃ poll, w.market.polls.lookup pollId = some poll ∧ minStakeAmount ≤ amount ∧
      w'.market.polls.lookup pollId = some (credited poll amount side) := by
  cases committed_of_returns (step_market.mp hstep) with
  | stake _ _ minimum poll_found _ _ _ _ _ _ record_eq =>
      subst record_eq
      exact ⟨_, poll_found, minimum, Finmap.lookup_insert _⟩

section Sides

/-- The users with a stake on this side of the poll. -/
def stakersOn (m : Market) (pollId : ℕ) (side : StakeSide) : Finset Address :=
  (m.stakes.keys.filter fun k =>
    k.1 = pollId ∧ (m.stakes.lookup k).map (·.side) = some side).image Prod.snd

/-- The amount a user has on this side of the poll. -/
def holding (m : Market) (pollId : ℕ) (side : StakeSide) (user : Address) : ℤ :=
  weightAt (sideAmount pollId side) m.stakes (pollId, user)

variable {m : Market} {pollId : ℕ} {side : StakeSide}

theorem mem_stakersOn {user : Address} : user ∈ stakersOn m pollId side ↔
    ∃ record, m.stakes.lookup (pollId, user) = some record ∧ record.side = side := by
  simp only [stakersOn, Finset.mem_image, Finset.mem_filter, Option.map_eq_some_iff]
  constructor
  · rintro ⟨⟨_, _⟩, ⟨-, rfl, record, hrecord, hside⟩, rfl⟩
    exact ⟨record, hrecord, hside⟩
  · rintro ⟨record, hrecord, hside⟩
    exact ⟨(pollId, user), ⟨mem_keys_of_lookup hrecord, rfl, record, hrecord, hside⟩, rfl⟩

theorem holding_eq {user : Address} {record : Stake}
    (hrecord : m.stakes.lookup (pollId, user) = some record) (hside : record.side = side) :
    holding m pollId side user = record.amount := by
  rw [holding, weightAt_of_lookup _ hrecord, sideAmount, if_pos ⟨rfl, hside⟩]

theorem sum_holding : ∑ user ∈ stakersOn m pollId side, holding m pollId side user =
    total (sideAmount pollId side) m.stakes := by
  have hinj : Set.InjOn (fun user : Address => (pollId, user)) (stakersOn m pollId side) :=
    fun _ _ _ _ h => (Prod.mk.inj h).2
  calc ∑ user ∈ stakersOn m pollId side, holding m pollId side user
      = ∑ k ∈ (stakersOn m pollId side).image fun user => (pollId, user),
          weightAt (sideAmount pollId side) m.stakes k := (Finset.sum_image hinj).symm
    _ = total (sideAmount pollId side) m.stakes := ?_
  apply Finset.sum_subset
  · intro k hk
    obtain ⟨user, huser, rfl⟩ := Finset.mem_image.mp hk
    obtain ⟨record, hrecord, -⟩ := mem_stakersOn.mp huser
    exact mem_keys_of_lookup hrecord
  · rintro ⟨pollId', user⟩ hkey hrest
    obtain ⟨record, hrecord⟩ := Finmap.mem_iff.mp (Finmap.mem_keys.mp hkey)
    rw [weightAt_of_lookup _ hrecord, sideAmount, if_neg]
    rintro ⟨rfl, hside⟩
    exact hrest (Finset.mem_image.mpr ⟨user, mem_stakersOn.mpr ⟨record, hrecord, hside⟩, rfl⟩)

def debited (poll : Poll) (amount : ℤ) : StakeSide → Poll
  | .yes => { poll with yesPool := poll.yesPool - amount }
  | .no => { poll with noPool := poll.noPool - amount }

/-- The ledger with an amount taken out of one pool of a poll. -/
def takenOut (w : World N) (pollId : ℕ) (poll : Poll) (amount : ℤ) (side : StakeSide) : World N :=
  { w with
    market :=
      { w.market with polls := w.market.polls.insert pollId (debited poll amount side) } }

theorem pool_debited (poll : Poll) (amount : ℤ) (side side' : StakeSide) :
    poolOnSide (debited poll amount side) side' =
      poolOnSide poll side' - if side = side' then amount else 0 := by
  cases side <;> cases side' <;> simp [poolOnSide, debited]

theorem pools_debited (poll : Poll) (amount : ℤ) (side : StakeSide) :
    (debited poll amount side).yesPool + (debited poll amount side).noPool + amount =
      poll.yesPool + poll.noPool := by
  cases side <;> simp only [debited] <;> omega

theorem holding_bounds {contract : Address} (hcons : Consistent contract m) {poll : Poll}
    (found : m.polls.lookup pollId = some poll) {user : Address}
    (huser : user ∈ stakersOn m pollId side) :
    0 < holding m pollId side user ∧ holding m pollId side user ≤ poolOnSide poll side := by
  obtain ⟨record, hrecord, hside⟩ := mem_stakersOn.mp huser
  constructor
  · rw [holding_eq hrecord hside]
    exact (hcons.record pollId user record hrecord).positive
  · rw [(hcons.poll pollId poll found).pool_eq, holding, weightAt_of_lookup _ hrecord]
    exact weight_le_total (sideAmount_nonneg hcons pollId side) hrecord

/-- With a staker's own amount taken out of its pool, the preview gives the
staker's share of both pools after the fee. -/
theorem query_own_share {w : World N} (hcons : Consistent N.market w.market) {poll : Poll}
    {user : Address} (found : w.market.polls.lookup pollId = some poll)
    (huser : user ∈ stakersOn w.market pollId side)
    (fee_le : feeBps w.market ≤ bpsDenominator)
    (fits : ProductsFit (holding w.market pollId side user) (poll.yesPool + poll.noPool)
      (keptBps w.market) (poolOnSide poll side)) :
    query (takenOut w pollId poll (holding w.market pollId side user) side)
        (calculatePotentialWinnings pollId side (holding w.market pollId side user)) =
      .ok (holding w.market pollId side user * (poll.yesPool + poll.noPool) * keptBps w.market /
        (poolOnSide poll side * bpsDenominator)) := by
  obtain ⟨hpos, hle⟩ := holding_bounds hcons found huser
  generalize holding w.market pollId side user = amount at *
  have hstored : (takenOut w pollId poll amount side).market.polls.lookup pollId =
      some (debited poll amount side) := Finmap.lookup_insert _
  have hpool : ∀ side', 0 ≤ poolOnSide (debited poll amount side) side' := by
    intro side'
    have hold := pool_nonneg hcons found side'
    rw [pool_debited]
    split
    · rename_i hside
      rw [← hside]
      omega
    · omega
  have hsum := pools_debited poll amount side
  have hown : poolOnSide (debited poll amount side) side + amount = poolOnSide poll side := by
    rw [pool_debited, if_pos rfl]
    omega
  rw [query_preview hstored (hpool .yes) (hpool .no) hpos, hsum, hown]
  exact ⟨fee_le, fits, rfl⟩

end Sides

/-- The value previewed before a stake is the staker's share, in the pools the
stake leaves, of what the fee keeps; and the shares of all stakers of a side
add up to that whole but for dust. -/
theorem payout_conservation (x : Execution N)
    (fee_le : feeBps x.final.market ≤ bpsDenominator) :
    (∀ signatures staker pollId amount side value w',
      step x.final (.market signatures (.stake staker pollId amount side)) = (.ok value, w') →
        ∃ poll, w'.market.polls.lookup pollId = some poll ∧
          (ProductsFit amount (poll.yesPool + poll.noPool) (keptBps x.final.market)
              (poolOnSide poll side) →
            query x.final (calculatePotentialWinnings pollId side amount) =
              .ok (amount * (poll.yesPool + poll.noPool) * keptBps x.final.market /
                (poolOnSide poll side * bpsDenominator)))) ∧
      ∀ pollId poll side, x.final.market.polls.lookup pollId = some poll →
        (stakersOn x.final.market pollId side).Nonempty →
        (∀ user ∈ stakersOn x.final.market pollId side,
          ProductsFit (holding x.final.market pollId side user) (poll.yesPool + poll.noPool)
            (keptBps x.final.market) (poolOnSide poll side)) →
        ∃ payout : Address → ℤ,
          (∀ user ∈ stakersOn x.final.market pollId side,
            query (takenOut x.final pollId poll (holding x.final.market pollId side user) side)
                (calculatePotentialWinnings pollId side
                  (holding x.final.market pollId side user)) = .ok (payout user)) ∧
            ∑ user ∈ stakersOn x.final.market pollId side, payout user ≤
              (poll.yesPool + poll.noPool) * keptBps x.final.market / bpsDenominator ∧
            (poll.yesPool + poll.noPool) * keptBps x.final.market <
              bpsDenominator * (∑ user ∈ stakersOn x.final.market pollId side, payout user +
                (stakersOn x.final.market pollId side).card) := by
  have hcons := consistent_run x
  have hbps : (0 : ℤ) < bpsDenominator := by decide
  constructor
  · intro signatures staker pollId amount side value w' hstep
    obtain ⟨poll, found, hminimum, hcredited⟩ := stake_ok hstep
    have hpools : (credited poll amount side).yesPool + (credited poll amount side).noPool =
        poll.yesPool + poll.noPool + amount := pollPools_credited poll amount side pollId
    have hpool : poolOnSide (credited poll amount side) side = poolOnSide poll side + amount := by
      rw [pool_credited, if_pos rfl]
    have hpos := pos_of_minimum hminimum
    refine ⟨_, hcredited, ?_⟩
    obtain ⟨hyes, hno, -⟩ := pools_bounds hcons found side
    rw [hpools, hpool, ← previewed_eq hyes hno hpos (keptBps_nonneg fee_le)]
    exact query_fits hcons fee_le found hpos
  · intro pollId poll side found hstakers fits
    refine ⟨fun user => holding x.final.market pollId side user *
      (poll.yesPool + poll.noPool) * keptBps x.final.market / (poolOnSide poll side * bpsDenominator),
      fun user huser => query_own_share hcons found huser fee_le (fits user huser), ?_⟩
    obtain ⟨user, huser⟩ := hstakers
    obtain ⟨hpos, hle⟩ := holding_bounds hcons found huser
    have hsum := sum_holding.trans ((hcons.poll pollId poll found).pool_eq side).symm
    obtain ⟨hlow, hhigh⟩ := shares_bounds (stakersOn x.final.market pollId side)
      (holding x.final.market pollId side)
      (m := (poll.yesPool + poll.noPool) * keptBps x.final.market) (hpos.trans_le hle) hbps
      ⟨user, huser⟩ hsum
    simp only [mul_assoc] at hlow hhigh ⊢
    refine ⟨?_, hhigh⟩
    rw [Int.le_ediv_iff_mul_le hbps, mul_comm]
    exact hlow

def sidesRun : Execution sampleNetwork :=
  sampleRun
    [.market allSign (.stake ⟨5⟩ 1 20000000 .yes), .market allSign (.stake ⟨6⟩ 1 30000001 .yes)]

def emptyPoll : Poll :=
  ⟨1, 1, ⟨5⟩, "Goal in the first half?", .teamEvent, 1000, 0, 0, 0, 0, .active, none, 0, 100⟩

def sidesPoll : Poll := { emptyPoll with yesPool := 50000001, yesCount := 2 }

instance (amount totalPool kept onSide : ℤ) :
    Decidable (ProductsFit amount totalPool kept onSide) :=
  inferInstanceAs (Decidable (_ ∧ _))

theorem payout_conservation_sample : ∃ payout : Address → ℤ,
    ∑ user ∈ stakersOn sidesRun.final.market 1 .yes, payout user ≤
      (sidesPoll.yesPool + sidesPoll.noPool) * keptBps sidesRun.final.market / bpsDenominator := by
  obtain ⟨payout, -, hpayout, -⟩ := (payout_conservation sidesRun (by decide +kernel)).2 1
    sidesPoll .yes (by decide +kernel) (by decide +kernel) (by decide +kernel)
  exact ⟨payout, hpayout⟩

section Definedness

theorem productsFit_iff {amount totalPool kept onSide : ℤ} (hamount : minStakeAmount ≤ amount)
    (hpools : 0 ≤ onSide ∧ onSide ≤ totalPool) :
    ProductsFit amount totalPool kept onSide ↔
      amount * totalPool * max 1 kept < 2 ^ 127 := by
  have hpos := pos_of_minimum hamount
  have hgross : 0 ≤ amount * totalPool := mul_nonneg hpos.le (by omega)
  constructor
  · rintro ⟨hfits, hnet, -⟩
    rcases max_choice 1 kept with hmax | hmax
    · rwa [hmax, mul_one]
    · rwa [hmax]
  · intro hfits
    have hone := (mul_le_mul_of_nonneg_left (le_max_left 1 kept) hgross).trans_lt hfits
    rw [mul_one] at hone
    refine ⟨hone, (mul_le_mul_of_nonneg_left (le_max_right 1 kept) hgross).trans_lt hfits, ?_⟩
    have hdivisor : onSide * bpsDenominator ≤ amount * totalPool := by
      rw [mul_comm]
      exact mul_le_mul (le_trans (by decide) hamount) hpools.2 hpools.1 hpos.le
    exact hdivisor.trans_lt hone

/-- For a stake that would go through the preview is defined exactly when its
triple product fits. -/
theorem preview_defined_iff (x : Execution N) {signatures : Signatures N} {staker : Address}
    {pollId : ℕ} {amount : ℤ} {side : StakeSide} {value : Value}
    (fee_le : feeBps x.final.market ≤ bpsDenominator)
    (accepted : (step x.final (.market signatures (.stake staker pollId amount side))).1 =
      .ok value) :
    ∃ poll, x.final.market.polls.lookup pollId = some poll ∧
      ((∃ winnings, query x.final (calculatePotentialWinnings pollId side amount) =
          .ok winnings) ↔
        amount * (poll.yesPool + poll.noPool + amount) * max 1 (keptBps x.final.market) <
          2 ^ 127) := by
  have hcons := consistent_run x
  obtain ⟨poll, found, hminimum, -⟩ := stake_ok (Prod.ext accepted rfl)
  obtain ⟨hyes, hno, hpool, hpools⟩ := pools_bounds hcons found side
  have hpos := pos_of_minimum hminimum
  have hsides : 0 ≤ poolOnSide poll side + amount ∧
      poolOnSide poll side + amount ≤ poll.yesPool + poll.noPool + amount := by omega
  refine ⟨poll, found, ?_⟩
  simp only [query_preview found hyes hno hpos]
  rw [← productsFit_iff hminimum hsides]
  constructor
  · rintro ⟨_, -, fits, -⟩
    exact fits
  · intro fits
    exact ⟨_, fee_le, fits, rfl⟩

theorem preview_defined_iff_sample :
    ∃ winnings, query (sampleRun []).final (calculatePotentialWinnings 1 .yes 20000000) =
      .ok winnings := by
  have accepted : (step (sampleRun []).final
      (.market allSign (.stake ⟨5⟩ 1 20000000 .yes))).1 =
        .ok (.stake ⟨⟨5⟩, 1, 20000000, .yes, false, 100⟩) := by
    decide +kernel
  have hpoll : (sampleRun []).final.market.polls.lookup 1 = some emptyPoll := by
    decide +kernel
  obtain ⟨poll, found, hiff⟩ := preview_defined_iff (sampleRun []) (by decide +kernel) accepted
  cases found.symm.trans hpoll
  exact hiff.mpr (by decide +kernel)

def hugeRun : Execution sampleNetwork where
  start := 100
  tokens := (∅ : Store (Address × Address) ℕ).insert (⟨3⟩, ⟨5⟩) (2 ^ 63 - 1)
  actions := (sampleRun []).actions

/-- The whole supply of a classic asset can be staked, but not previewed. -/
theorem hugeRun_preview_traps :
    feeBps hugeRun.final.market ≤ bpsDenominator ∧
      (step hugeRun.final (.market allSign (.stake ⟨5⟩ 1 (2 ^ 63 - 1) .yes))).1 =
        .ok (.stake ⟨⟨5⟩, 1, 2 ^ 63 - 1, .yes, false, 100⟩) ∧
      query hugeRun.final (calculatePotentialWinnings 1 .yes (2 ^ 63 - 1)) = .trap none := by
  decide +kernel

end Definedness

section Fees

theorem feeBps_initialized {x : Execution N} {e : Transaction N} (he : e ∈ x.history)
    {signatures : Signatures N} {admin oracle token treasury : Address} {fee : ℕ} {value : Value}
    (hcall : e.input = .market signatures (.initializeMarket admin oracle token treasury fee))
    (hok : e.output = .ok value) : feeBps x.final.market = fee := by
  have hstep := Execution.step_of_mem he
  rw [hcall, hok] at hstep
  have hset := initialize_configures hstep
  have hkept := (configuration_kept he (congrArg Prod.fst hset)).trans hset
  have hfee : x.final.market.platformFeeBps = some fee :=
    congrArg (fun configuration => configuration.2.2.2) hkept
  rw [feeBps, hfee]
  rfl

/-- After any accepted `initialize` the preview of an amount whose products
fit is defined, and lies between what the amount and what the whole pool would
bring, exactly if the fee is at most the whole. -/
theorem preview_bounds_iff (x : Execution N) {e : Transaction N} {signatures : Signatures N}
    {admin oracle token treasury : Address} {fee : ℕ} {value : Value} {pollId : ℕ}
    {side : StakeSide} {amount : ℤ} {poll : Poll} (he : e ∈ x.history)
    (hcall : e.input = .market signatures (.initializeMarket admin oracle token treasury fee))
    (hok : e.output = .ok value) (found : x.final.market.polls.lookup pollId = some poll)
    (hamount : 0 < amount)
    (gross_fits : amount * (poll.yesPool + poll.noPool + amount) * 10000 < 2 ^ 127)
    (divisor_fits : (poolOnSide poll side + amount) * 10000 < 2 ^ 127) :
    (∃ winnings, query x.final (calculatePotentialWinnings pollId side amount) = .ok winnings ∧
        amount * (10000 - fee) / 10000 ≤ winnings ∧
        winnings ≤ (poll.yesPool + poll.noPool + amount) * (10000 - fee) / 10000 ∧
        (poll.yesPool + poll.noPool + amount) * (10000 - fee) / 10000 ≤
          poll.yesPool + poll.noPool + amount) ↔ fee ≤ 10000 := by
  have hcons := consistent_run x
  obtain ⟨hyes, hno, hpool, hpools⟩ := pools_bounds hcons found side
  have hfee := feeBps_initialized he hcall hok
  have hkept : keptBps x.final.market = 10000 - fee := by
    rw [keptBps, hfee]
    rfl
  have hgross : 0 ≤ amount * (poll.yesPool + poll.noPool + amount) :=
    mul_nonneg hamount.le (by omega)
  simp only [query_preview found hyes hno hamount, hfee, hkept]
  constructor
  · rintro ⟨_, ⟨hfits, -⟩, -⟩
    exact hfits
  · intro hle
    have hkeptLe : amount * (poll.yesPool + poll.noPool + amount) * (10000 - fee) ≤
        amount * (poll.yesPool + poll.noPool + amount) * 10000 :=
      mul_le_mul_of_nonneg_left (by omega) hgross
    obtain ⟨hlow, hhigh⟩ := share_bounds (t := poll.yesPool + poll.noPool + amount)
      (p := poolOnSide poll side + amount) (f := 10000 - fee) (d := 10000) hamount (by omega) (by omega)
      (by omega) (by decide)
    refine ⟨_, ⟨hle, ⟨by omega, by omega, divisor_fits⟩, rfl⟩, hlow, hhigh, ?_⟩
    exact kept_le (by omega) (by decide) (by omega)

def feeRun (fee : ℕ) : Execution sampleNetwork where
  start := 100
  tokens := sampleTokens
  actions :=
    [.market allSign (.initializeMarket ⟨1⟩ ⟨2⟩ ⟨3⟩ ⟨4⟩ fee),
      .market allSign (.createMatch ⟨1⟩ "Home" "Away" "League" "Venue" 2000),
      .market allSign (.createPoll ⟨5⟩ 1 "Goal in the first half?" .teamEvent 1000)]

theorem preview_bounds_iff_sample :
    ∃ winnings, query (feeRun 500).final (calculatePotentialWinnings 1 .yes 20000000) =
      .ok winnings ∧ 19000000 ≤ winnings := by
  have hpoll : (feeRun 500).final.market.polls.lookup 1 = some emptyPoll := by
    decide +kernel
  have hok : (step (genesis sampleNetwork 100 sampleTokens)
      (.market allSign (.initializeMarket ⟨1⟩ ⟨2⟩ ⟨3⟩ ⟨4⟩ 500))).1 = .ok .unit := by
    decide +kernel
  have hamount : (0 : ℤ) < 20000000 := by decide
  have hdivisor : (poolOnSide emptyPoll .yes + 20000000) * 10000 < 2 ^ 127 := by decide
  obtain ⟨winnings, hquery, hlow, -⟩ := (preview_bounds_iff (feeRun 500) List.mem_cons_self rfl
    hok hpoll hamount (by decide) hdivisor).mpr (by decide)
  exact ⟨winnings, hquery, hlow⟩

/-- A fee above the whole is accepted, and no preview is defined then. -/
theorem feeRun_preview_traps :
    (feeRun 10001).final.market.platformFeeBps = some 10001 ∧
      query (feeRun 10001).final (calculatePotentialWinnings 1 .yes 20000000) = .trap none := by
  decide +kernel

end Fees

end PredictX.WinningsPreview
