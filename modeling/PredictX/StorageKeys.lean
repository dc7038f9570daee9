import PredictX.Bookkeeping
import PredictX.StorageWrites

namespace PredictX.StorageKeys

open PredictX.Bookkeeping
open PredictX.CommittedCalls
open PredictX.FiniteStore
open PredictX.HostCall
open PredictX.LabelledRuns
open PredictX.MarketStorage
open PredictX.PredictionMarket
open PredictX.SharedTypes
open PredictX.SorobanHost
open PredictX.StorageWrites
open PredictX.System
open PredictX.TokenContracts

variable {N : Network}

def writes (e : Transaction N) : List DataKey :=
  match e.input, e.output with
  | .market _ op, .ok _ => written e.before.market op
  | _, _ => []

def entryIn (key : DataKey) (w : World N) : Option StoredValue := entryOf w.market key

/-- What the transaction left under the key, if it wrote it. -/
def putAt (key : DataKey) (e : Transaction N) : Option StoredValue :=
  if key ∈ writes e then entryOf e.after.market key else none

theorem writes_silent {e : Transaction N}
    (hsilent : ∀ signatures op value, e.input = .market signatures op → e.output ≠ .ok value) :
    writes e = [] := by
  unfold writes
  split
  · rename_i hinput houtput
    exact absurd houtput (hsilent _ _ _ hinput)
  · rfl

/-- An accepted call writes the keys of its footprint and no others, as the log
of its writes shows; every other transaction writes none. -/
structure FollowsFootprint (e : Transaction N) : Prop where
  logged : ∀ signatures op value, e.input = .market signatures op → e.output = .ok value →
    Logs (callEnv N.market signatures e.before.now) op.execute e.before (writes e)
      (otherWrites op)
  counted : ∀ signatures op value, e.input = .market signatures op → e.output = .ok value →
    op.execute (callEnv N.market signatures e.before.now) e.before =
      .ok value e.after ((writes e).length + otherWrites op)
  once : (writes e).Nodup
  present : ∀ key ∈ writes e, (entryOf e.after.market key).isSome = true
  elsewhere : ∀ key, key ∉ writes e → entryOf e.after.market key = entryOf e.before.market key

theorem footprint_silent {e : Transaction N} (hmarket : e.after.market = e.before.market)
    (hsilent : ∀ signatures op value, e.input = .market signatures op → e.output ≠ .ok value) :
    FollowsFootprint e := by
  have hwrites := writes_silent hsilent
  refine ⟨?_, ?_, ?_, ?_, ?_⟩
  · intro signatures op value hinput houtput
    exact absurd houtput (hsilent signatures op value hinput)
  · intro signatures op value hinput houtput
    exact absurd houtput (hsilent signatures op value hinput)
  · rw [hwrites]
    exact List.nodup_nil
  · rw [hwrites]
    exact fun _ hkey => absurd hkey List.not_mem_nil
  · intro key _
    rw [hmarket]

theorem footprint_market {w w' : World N} {signatures : Signatures N} {op : MarketOp}
    {value : Value} (h : step w (.market signatures op) = (.ok value, w')) :
    FollowsFootprint ⟨w, .market signatures op, .ok value, w'⟩ := by
  have hreturns := step_market.mp h
  have hlogs := traced_execute op value w' hreturns
  obtain ⟨n, hout⟩ := hreturns
  have hwritten := hlogs.written hout
  refine ⟨?_, ?_, written_nodup _ op, hwritten.present, hwritten.elsewhere⟩
  · rintro _ _ _ ⟨⟩ -
    exact hlogs
  · rintro _ _ _ ⟨⟩ ⟨⟩
    exact hwritten.counted ▸ hout

theorem footprint_step (w : World N) (a : Action N) : FollowsFootprint (entry step w a) := by
  have hcases := step_cases w a
  have hstep : step w a = ((step w a).1, (step w a).2) := rfl
  unfold entry
  generalize (step w a).1 = reply at hcases hstep ⊢
  generalize (step w a).2 = w' at hcases hstep ⊢
  cases hcases with
  | rejected failed => exact footprint_silent rfl fun _ _ value _ => failed value
  | market => exact footprint_market hstep
  | _ =>
      refine footprint_silent rfl ?_
      rintro _ _ _ ⟨⟩

theorem mem_writes_of_putAt {e : Transaction N} {key : DataKey} {value : StoredValue}
    (h : putAt key e = some value) : key ∈ writes e := by
  unfold putAt at h
  split at h
  · assumption
  · exact absurd h.symm (Option.some_ne_none value)

theorem entryOf_step (w : World N) (a : Action N) (key : DataKey) :
    entryOf (step w a).2.market key =
      (putAt key (entry step w a)).or (entryOf w.market key) := by
  have hfootprint := footprint_step w a
  rw [putAt]
  split
  · rename_i hkey
    exact (Option.or_of_isSome (hfootprint.present key hkey)).symm
  · rename_i hkey
    exact hfootprint.elsewhere key hkey

/-- The keys of the configuration, of a stake and of a refund. -/
def writeOnce : DataKey → Bool
  | .admin | .tokenAddress | .treasuryAddress | .platformFeeBps | .initialized => true
  | .stake .. | .hasStaked .. | .emergencyClaimed .. => true
  | _ => false

/-- Nothing is configured without an admin, and a refund flag is only set. -/
structure SetUp (m : Market) : Prop where
  treasury : m.admin = none → m.treasuryAddress = none
  fee : m.admin = none → m.platformFeeBps = none
  initialized : m.admin = none → m.initialized = none
  claims : ∀ k flag, m.emergencyClaimed.lookup k = some flag → flag = true

theorem setUp_deployed : SetUp .deployed where
  treasury := fun _ => rfl
  fee := fun _ => rfl
  initialized := fun _ => rfl
  claims := by simp [Market.deployed]

theorem setUp_step {w w' : World N} {a : Action N} {reply : Reply PredictXError Value}
    (hstep : Step w a reply w') (h : SetUp w.market) : SetUp w'.market := by
  cases hstep with
  | market committed =>
      cases committed with
      | initializeMarket => exact { h with treasury := nofun, fee := nofun, initialized := nofun }
      | emergencyWithdraw =>
          refine { h with claims := ?_ }
          intro k flag hflag
          rw [refundedMarket, lookup_insert_eq] at hflag
          split at hflag
          · exact (Option.some.inj hflag).symm
          · exact h.claims k flag hflag
      | _ => exact { h with }
  | _ => exact h

theorem writeOnce_fresh {w w' : World N} {a : Action N} {reply : Reply PredictXError Value}
    (hcons : Consistent N.market w.market) (hsetUp : SetUp w.market) (hstep : Step w a reply w')
    {key : DataKey} (honce : writeOnce key = true) (hkey : key ∈ writes ⟨w, a, reply, w'⟩) :
    entryOf w.market key = none := by
  cases hstep with
  | rejected failed =>
      rw [writes_silent fun _ _ value _ => failed value] at hkey
      exact absurd hkey List.not_mem_nil
  | market committed =>
      change key ∈ written w.market _ at hkey
      cases committed with
      | initializeMarket fresh =>
          have htoken := hcons.configured.mpr fresh
          have htreasury := hsetUp.treasury fresh
          have hfee := hsetUp.fee fresh
          have hflag := hsetUp.initialized fresh
          simp only [written, List.mem_cons, List.not_mem_nil, or_false] at hkey
          rcases hkey with rfl | rfl | rfl | rfl | rfl | rfl | rfl | rfl <;>
            simp_all [entryOf, writeOnce]
      | emergencyWithdraw _ unclaimed =>
          simp only [written, List.mem_cons, List.not_mem_nil, or_false] at hkey
          rcases hkey with rfl | rfl
          · rw [Market.hasEmergencyClaimed] at unclaimed
            rw [entryOf, Option.map_eq_none_iff]
            cases hflag : w.market.emergencyClaimed.lookup (_, _) with
            | none => rfl
            | some flag =>
                rw [hflag, hsetUp.claims _ flag hflag] at unclaimed
                exact absurd unclaimed.symm Bool.false_ne_true
          · exact absurd honce Bool.false_ne_true
      | stake _ _ _ _ _ _ fresh =>
          have hstake := hcons.stakes_fresh fresh
          have hflag := Finmap.lookup_eq_none.mpr fresh
          simp only [written, List.mem_cons, List.not_mem_nil, or_false] at hkey
          rcases hkey with rfl | rfl | rfl | rfl | rfl <;> simp_all [entryOf, writeOnce]
      | _ =>
          refine absurd honce (Bool.eq_false_iff.mp ?_)
          clear honce
          revert key
          simp [written, writeOnce]
  | _ => simp [writes] at hkey

/-- The storage is the log of its writes: under each key stands what the last
transaction to write the key put there, so no entry is ever removed; every
transaction follows its footprint; and the configuration, the stakes and the
refund flags are written at most once. -/
theorem storage_log (x : Execution N) (key : DataKey) :
    entryOf x.final.market key = (x.history.filterMap (putAt key)).getLast? ∧
      (∀ e ∈ x.history, FollowsFootprint e) ∧
      (writeOnce key = true → (x.history.filterMap (putAt key)).length ≤ 1) := by
  have hwrite : ∀ (w : World N) (a : Action N), entryIn key (step w a).2 =
      (putAt key (entry step w a)).or (entryIn key w) :=
    fun w a => entryOf_step w a key
  refine ⟨?_, ?_, ?_⟩
  · change entryIn key x.final = _
    exact run_last_write (by cases key <;> rfl) hwrite x.actions
  · intro e he
    obtain ⟨before, after, -, -, heq⟩ := x.exists_of_mem he
    rw [heq]
    exact footprint_step e.before e.input
  · intro honce
    refine run_write_once (P := fun w : World N => Consistent N.market w.market ∧ SetUp w.market)
      ⟨consistent_deployed _, setUp_deployed⟩ ?_ hwrite ?_ x.actions
    · rintro w a ⟨hcons, hsetUp⟩
      exact ⟨consistent_step hcons (step_cases w a), setUp_step (step_cases w a) hsetUp⟩
    · rintro w a value ⟨hcons, hsetUp⟩ hput
      exact writeOnce_fresh hcons hsetUp (step_cases w a) honce (mem_writes_of_putAt hput)

end PredictX.StorageKeys
