import PredictX.Verdicts
import PredictX.WinningsPreview

namespace PredictX.Headroom

open PredictX.Bookkeeping
open PredictX.CommittedCalls
open PredictX.FiniteStore
open PredictX.HostCall
open PredictX.Identifiers
open PredictX.LabelledRuns
open PredictX.MarketStorage
open PredictX.OrderedChecks
open PredictX.PredictionMarket
open PredictX.Settlement
open PredictX.SharedTypes
open PredictX.SorobanHost
open PredictX.Staking
open PredictX.System
open PredictX.TokenContracts
open PredictX.Verdicts
open PredictX.WinningsPreview

variable {N : Network}

/-- Nobody holds more of the configured token than this. -/
def HeldWithin (bound : ℤ) (w : World N) : Prop :=
  ∀ token, w.market.tokenAddress = some token → ∀ holder, N.balance w.tokens token holder ≤ bound

/-- Every counter and every sum is as small as after `n` transactions that
moved at most `bound` each. -/
structure Modest (bound : ℤ) (n : ℕ) (m : Market) : Prop where
  nextMatch : m.nextMatchId.getD 1 ≤ n + 1
  nextPoll : m.nextPollId.getD 1 ≤ n + 1
  placed : m.stats.totalStakesPlaced ≤ n
  locked : m.stats.totalValueLocked ≤ n * bound
  counts : ∀ pollId poll, m.polls.lookup pollId = some poll → ∀ side, count poll side ≤ n
  pools : ∀ pollId poll, m.polls.lookup pollId = some poll → ∀ side,
    poolOnSide poll side ≤ n * bound

theorem modest_deployed (bound : ℤ) : Modest bound 0 .deployed where
  nextMatch := le_rfl
  nextPoll := le_rfl
  placed := le_rfl
  locked := by simp [Market.deployed, Market.stats]
  counts := by simp [Market.deployed]
  pools := by simp [Market.deployed]

theorem product_le {bound : ℤ} (hbound : 0 ≤ bound) (n : ℕ) :
    (n : ℤ) * bound ≤ ((n + 1 : ℕ) : ℤ) * bound :=
  mul_le_mul_of_nonneg_right (by omega) hbound

theorem Modest.later {bound : ℤ} {n : ℕ} {m : Market} (hbound : 0 ≤ bound)
    (h : Modest bound n m) : Modest bound (n + 1) m where
  nextMatch := Nat.le_succ_of_le h.nextMatch
  nextPoll := Nat.le_succ_of_le h.nextPoll
  placed := Nat.le_succ_of_le h.placed
  locked := h.locked.trans (product_le hbound n)
  counts := fun pollId poll hpoll side => Nat.le_succ_of_le (h.counts pollId poll hpoll side)
  pools := fun pollId poll hpoll side =>
    (h.pools pollId poll hpoll side).trans (product_le hbound n)

theorem Modest.staked {bound : ℤ} {n : ℕ} {m : Market} {poll : Poll} {record : Stake}
    (hbound : 0 ≤ bound) (h : Modest bound n m)
    (poll_found : m.polls.lookup record.pollId = some poll) (hamount : record.amount ≤ bound) :
    Modest bound (n + 1) (stakedMarket m poll record) := by
  have hproduct : ((n + 1 : ℕ) : ℤ) * bound = n * bound + bound := by
    push_cast
    ring
  have hlater := h.later hbound
  have hlocked := h.locked
  refine { hlater with placed := ?_, locked := ?_, counts := ?_, pools := ?_ }
  · exact Nat.succ_le_succ h.placed
  · change m.stats.totalValueLocked + record.amount ≤ _
    rw [hproduct]
    omega
  · intro pollId poll' hpoll side
    rw [polls_staked] at hpoll
    split at hpoll
    · cases hpoll
      have hold := h.counts _ poll poll_found side
      rw [count_credited]
      split
      · omega
      · omega
    · exact hlater.counts pollId poll' hpoll side
  · intro pollId poll' hpoll side
    rw [polls_staked] at hpoll
    split at hpoll
    · cases hpoll
      have hold := h.pools _ poll poll_found side
      rw [pool_credited, hproduct]
      split
      · omega
      · omega
    · exact hlater.pools pollId poll' hpoll side

/-- One transaction adds at most one to a counter and one holding to a sum. -/
theorem modest_step {bound : ℤ} {n : ℕ} {w w' : World N} {a : Action N}
    {reply : Reply PredictXError Value} (hbound : 0 ≤ bound)
    (hcons : Consistent N.market w.market) (hheld : HeldWithin bound w)
    (hstep : Step w a reply w') (h : Modest bound n w.market) :
    Modest bound (n + 1) w'.market := by
  have hlater := h.later hbound
  cases hstep with
  | market committed =>
      cases committed with
      | initializeMarket => exact { hlater with nextMatch := by simp, nextPoll := by simp }
      | emergencyWithdraw _ _ _ _ _ staked =>
          have hpositive := (hcons.record _ _ _ staked).positive
          have hlocked := hlater.locked
          refine { hlater with locked := ?_ }
          change w.market.stats.totalValueLocked - _ ≤ _
          omega
      | createPoll _ _ _ _ _ _ _ poll_eq =>
          subst poll_eq
          refine { hlater with nextPoll := Nat.succ_le_succ h.nextPoll, counts := ?_, pools := ?_ }
          · intro pollId poll hpoll side
            rw [polls_pollAdded] at hpoll
            split at hpoll
            · cases hpoll
              cases side <;> exact Nat.zero_le _
            · exact hlater.counts pollId poll hpoll side
          · intro pollId poll hpoll side
            rw [polls_pollAdded] at hpoll
            split at hpoll
            · cases hpoll
              have hzero : (0 : ℤ) ≤ ((n + 1 : ℕ) : ℤ) * bound :=
                mul_nonneg (Int.natCast_nonneg _) hbound
              cases side <;> exact hzero
            · exact hlater.pools pollId poll hpoll side
      | stake authorised _ _ poll_found _ _ _ token_found transferred _ record_eq =>
          subst record_eq
          have hpaid := N.amount_le transferred (signer_ne_market authorised)
          exact h.staked hbound poll_found (hpaid.trans (hheld _ token_found _))
      | createMatch _ _ _ _ match_eq =>
          subst match_eq
          exact { hlater with nextMatch := Nat.succ_le_succ h.nextMatch }
      | _ => exact { hlater with }
  | _ => exact hlater

theorem modest_run {bound : ℤ} (hbound : 0 ≤ bound) (x : Execution N)
    (hheld : ∀ e ∈ x.history, HeldWithin bound e.before) :
    Modest bound x.actions.length x.final.market := by
  have hlength : x.actions.length = x.history.length := (length_trace x.actions).symm
  rw [hlength]
  refine (x.induction (P := fun h w => Consistent N.market w.market ∧
    ((∀ e ∈ h, HeldWithin bound e.before) → Modest bound h.length w.market)) ?_ ?_).2 hheld
  · exact ⟨consistent_deployed _, fun _ => modest_deployed bound⟩
  · rintro h w a ⟨hcons, ih⟩
    have hstep := step_cases w a
    refine ⟨consistent_step hcons hstep, fun hall => ?_⟩
    rw [List.length_append, List.length_singleton]
    have hbefore := ih fun e he => hall e (List.mem_append_left _ he)
    exact modest_step hbound hcons (hall _ (List.mem_append_right _ (List.mem_singleton_self _)))
      hstep hbefore

theorem sum_fits {n : ℕ} {sum amount : ℤ} (hfew : n + 1 < 2 ^ 32) (hnonneg : 0 ≤ sum)
    (hsum : sum ≤ n * 2 ^ 63) (hpositive : 0 ≤ amount) (hamount : amount ≤ 2 ^ 63) :
    InI128 (sum + amount) := by
  unfold InI128
  omega

theorem stakeSums_pass {n : ℕ} {w : World N} {pollId : ℕ} {poll : Poll} {amount : ℤ}
    (hcons : Consistent N.market w.market) (h : Modest (2 ^ 63) n w.market)
    (hfew : n + 1 < 2 ^ 32) (hpoll : w.market.polls.lookup pollId = some poll)
    (hpositive : 0 ≤ amount) (hamount : amount ≤ 2 ^ 63) (side : StakeSide) :
    ∀ c ∈ stakeSums w poll amount side, c.fails = false := by
  have hpool := sum_fits hfew (pool_nonneg hcons hpoll side) (h.pools pollId poll hpoll side)
    hpositive hamount
  have hlockedNonneg : 0 ≤ w.market.stats.totalValueLocked := by
    rw [hcons.locked]
    exact hcons.unclaimed_nonneg
  have hlocked := sum_fits hfew hlockedNonneg h.locked hpositive hamount
  have hcount := h.counts pollId poll hpoll side
  have hplaced := h.placed
  simp only [stakeSums, List.forall_mem_cons, Check.fails, decide_eq_false_iff_not, not_not, not_le]
  refine ⟨hpool, ?_, hlocked, ?_, List.forall_mem_nil _⟩
  · omega
  · omega

/-- The reasons for which a call is aborted, none of them in the market's own
arithmetic. -/
def Aborts (signatures : Signatures N) (w : World N) : MarketOp → Prop
  | .initializeMarket signer _ _ _ _ | .pause signer | .unpause signer
  | .createPoll signer _ _ _ _ | .createMatch signer _ _ _ _ _
  | .updateMatch signer _ _ _ _ _ _ | .finishMatch signer _ =>
      signatures.accepts N.market signer = false
  | .setOracle _ =>
      ∃ admin, w.market.admin = some admin ∧ signatures.accepts N.market admin = false
  | .cancelPoll signer _ =>
      signatures.accepts N.market signer = false ∨
        ∃ oracleId, w.market.votingOracle = some oracleId ∧ obeys signatures w oracleId = false
  | .emergencyWithdraw user pollId =>
      signatures.accepts N.market user = false ∨
        (∃ oracleId, w.market.votingOracle = some oracleId ∧ oracleId ∉ w.oracles) ∨
        refusesRefund w user (Refunds.amountAt w.market (pollId, user)) = true
  | .stake staker _ amount _ =>
      signatures.accepts N.market staker = false ∨
        refusesPayment signatures w staker amount = true

theorem payment_within {bound : ℤ} {w : World N} {signatures : Signatures N} {staker : Address}
    {amount : ℤ} {pollId : ℕ} {poll : Poll} (hcons : Consistent N.market w.market)
    (hheld : HeldWithin bound w) (hpoll : w.market.polls.lookup pollId = some poll)
    (hsigned : signatures.accepts N.market staker = true)
    (hpays : refusesPayment signatures w staker amount = false) : 0 ≤ amount ∧ amount ≤ bound := by
  obtain ⟨token, htoken⟩ := token_of_poll hcons hpoll
  rw [refusesPayment, htoken, Option.any_some, Option.isNone_eq_false_iff] at hpays
  obtain ⟨tokens, htransfer⟩ := Option.isSome_iff_exists.mp hpays
  have hother : staker ≠ N.market := by
    rintro rfl
    exact Bool.false_ne_true ((signatures.market_silent _).symm.trans hsigned)
  exact ⟨N.transfer_nonneg htransfer,
    (N.amount_le htransfer hother).trans (hheld token htoken staker)⟩

theorem obeys_undeployed {w : World N} {oracleId : Address} (signatures : Signatures N)
    (h : undeployed w oracleId = true) : obeys signatures w oracleId = false := by
  rw [obeys, Option.isNone_iff_eq_none.mp h]
  rfl

theorem obeys_unset {w : World N} {oracleId : Address} (signatures : Signatures N)
    (h : (w.oracles.lookup oracleId).any (·.admin.isNone) = true) :
    obeys signatures w oracleId = false := by
  obtain ⟨storage, hdeployed, hunset⟩ := (Option.any_eq_true _ _).mp h
  rw [obeys, hdeployed, Option.any_some, Option.isNone_iff_eq_none.mp hunset]
  rfl

theorem stake_goes_on {n : ℕ} {w : World N} {signatures : Signatures N} {staker : Address}
    {amount : ℤ} {pollId : ℕ} (hcons : Consistent N.market w.market)
    (hmodest : Modest (2 ^ 63) n w.market) (hfew : n + 1 < 2 ^ 32) (hheld : HeldWithin (2 ^ 63) w)
    (hsigned : signatures.accepts N.market staker = true)
    (hpays : refusesPayment signatures w staker amount = false) (side : StakeSide) :
    ∀ c ∈ ((w.market.polls.lookup pollId).map
      (pollChecks signatures w staker pollId amount side)).getD [], c.aborts = false := by
  cases hpoll : w.market.polls.lookup pollId with
  | none => exact List.forall_mem_nil _
  | some poll =>
      obtain ⟨hpositive, hamount⟩ := payment_within hcons hheld hpoll hsigned hpays
      have hsums := stakeSums_pass hcons hmodest hfew hpoll hpositive hamount side
      refine List.forall_mem_cons.mpr ⟨rfl, List.forall_mem_cons.mpr ⟨rfl,
        List.forall_mem_cons.mpr ⟨hpays, fun c hc => ?_⟩⟩⟩
      exact Bool.eq_false_iff.mpr fun haborts =>
        Bool.false_ne_true ((hsums c hc).symm.trans (fails_of_aborts haborts))

/-- In a run of fewer than 2^32 transactions in which nobody holds more than
2^63 of the token, a call is aborted only for want of an authorisation, of an
oracle that answers, or of tokens. -/
theorem aborts_only_for (x : Execution N) (hfew : x.actions.length + 1 < 2 ^ 32)
    (hheld : ∀ e ∈ x.history, HeldWithin (2 ^ 63) e.before) (hnow : HeldWithin (2 ^ 63) x.final)
    (signatures : Signatures N) (op : MarketOp) {passedOn : Option PredictXError}
    (h : (step x.final (.market signatures op)).1 = .trap passedOn) :
    Aborts signatures x.final op := by
  have hcons := consistent_run x
  have hmodest := modest_run (by decide) x hheld
  rw [step_verdict hcons (numbered_run x) (unsettled_run x)] at h
  have habort := aborts_of_verdict h
  have hlacks : ∀ signer, lacks signatures signer = true →
      signatures.accepts N.market signer = false := fun _ hlacks => by simpa [lacks] using hlacks
  -- Only the checks that abort the call are left of each row of the table.
  cases op
  all_goals
    simp only [checks, comparedAdmin, signedAdmin, notPaused, List.cons_append, List.nil_append,
      List.any_cons, List.any_nil, Check.aborts, Bool.false_or, Bool.or_false,
      Bool.or_eq_true, decide_eq_true_iff] at habort
  case initializeMarket | finishMatch | updateMatch | pause | unpause => exact hlacks _ habort
  case setOracle =>
    obtain ⟨admin, hadmin, hsigner⟩ := (Option.any_eq_true _ _).mp habort
    exact ⟨admin, hadmin, hlacks _ hsigner⟩
  case cancelPoll =>
    rcases habort with habort | habort | habort | habort
    · exact .inl (hlacks _ habort)
    · obtain ⟨oracleId, horacle, hmissing⟩ := (Option.any_eq_true _ _).mp habort
      exact .inr ⟨oracleId, horacle, obeys_undeployed signatures hmissing⟩
    · obtain ⟨oracleId, horacle, hunset⟩ := (Option.any_eq_true _ _).mp habort
      exact .inr ⟨oracleId, horacle, obeys_unset signatures hunset⟩
    · obtain ⟨oracleId, horacle, hrefuses⟩ := (Option.any_eq_true _ _).mp habort
      exact .inr ⟨oracleId, horacle, by simpa using hrefuses⟩
  case emergencyWithdraw =>
    rcases habort with habort | habort | habort
    · exact .inl (hlacks _ habort)
    · obtain ⟨oracleId, horacle, hmissing⟩ := (Option.any_eq_true _ _).mp habort
      exact .inr (.inl ⟨oracleId, horacle,
        Finmap.lookup_eq_none.mp (Option.isNone_iff_eq_none.mp hmissing)⟩)
    · exact .inr (.inr habort)
  case createPoll =>
    have hnext := hmodest.nextPoll
    rcases habort with habort | habort
    · exact hlacks _ habort
    · omega
  case createMatch =>
    have hnext := hmodest.nextMatch
    rcases habort with habort | habort
    · exact hlacks _ habort
    · omega
  case stake staker pollId amount side =>
    cases hsigned : signatures.accepts N.market staker with
    | false => exact .inl hsigned
    | true =>
        cases hpays : refusesPayment signatures x.final staker amount with
        | true => exact .inr hpays
        | false =>
            rcases habort with habort | habort
            · exact absurd (hsigned.symm.trans (hlacks _ habort)) Bool.false_ne_true.symm
            · obtain ⟨c, hc, haborts⟩ := List.any_eq_true.mp habort
              have hpasses := stake_goes_on hcons hmodest hfew hnow hsigned hpays side c hc
              exact absurd (hpasses.symm.trans haborts) Bool.false_ne_true

theorem sampleTokens_within (token holder : Address) :
    storeBalance sampleTokens token holder ≤ 2 ^ 63 := by
  unfold storeBalance sampleTokens
  rw [lookup_insert_eq, lookup_insert_eq, Finmap.lookup_empty]
  split
  · decide
  · split
    · decide
    · decide

theorem within_of_tokens {w : World sampleNetwork} (h : w.tokens = sampleTokens) :
    HeldWithin (2 ^ 63) w := by
  intro token _ holder
  change storeBalance w.tokens token holder ≤ 2 ^ 63
  rw [h]
  exact sampleTokens_within token holder

theorem sampleRun_within : ∀ e ∈ (sampleRun []).history, HeldWithin (2 ^ 63) e.before := by
  refine List.forall_mem_cons.mpr ⟨within_of_tokens rfl, ?_⟩
  refine List.forall_mem_cons.mpr ⟨within_of_tokens rfl, ?_⟩
  refine List.forall_mem_cons.mpr ⟨within_of_tokens rfl, ?_⟩
  refine List.forall_mem_cons.mpr ⟨within_of_tokens rfl, ?_⟩
  exact List.forall_mem_cons.mpr ⟨within_of_tokens rfl, List.forall_mem_nil _⟩

theorem aborts_only_for_sample :
    Aborts (unsigned sampleNetwork) (sampleRun []).final (.stake ⟨5⟩ 1 20000000 .yes) := by
  have haborted : (step (sampleRun []).final
      (.market (unsigned sampleNetwork) (.stake ⟨5⟩ 1 20000000 .yes))).1 = .trap none := by
    decide +kernel
  exact aborts_only_for (sampleRun []) (by decide) sampleRun_within (within_of_tokens rfl)
    (unsigned sampleNetwork) (.stake ⟨5⟩ 1 20000000 .yes) haborted

end PredictX.Headroom
