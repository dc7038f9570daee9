import Mathlib.Algebra.BigOperators.Ring.Finset
import Mathlib.Algebra.Order.BigOperators.Group.Finset
import Mathlib.Algebra.Order.Ring.Int
import Mathlib.Data.Int.Lemmas
import Mathlib.Tactic.Ring

namespace PredictX.ProportionalShares

variable {ι : Type*}

theorem sum_ediv_bounds (s : Finset ι) (n : ι → ℤ) {d : ℤ} (hd : 0 < d) (hs : s.Nonempty) :
    d * ∑ i ∈ s, n i / d ≤ ∑ i ∈ s, n i ∧
      ∑ i ∈ s, n i < d * (∑ i ∈ s, n i / d + s.card) := by
  have hsplit : ∑ i ∈ s, n i = d * ∑ i ∈ s, n i / d + ∑ i ∈ s, n i % d := by
    rw [Finset.mul_sum, ← Finset.sum_add_distrib]
    exact Finset.sum_congr rfl fun i _ => (Int.mul_ediv_add_emod (n i) d).symm
  have hlow : 0 ≤ ∑ i ∈ s, n i % d :=
    Finset.sum_nonneg fun i _ => Int.emod_nonneg (n i) (Int.ne_of_gt hd)
  have hhigh : ∑ i ∈ s, n i % d < ∑ _i ∈ s, d :=
    Finset.sum_lt_sum_of_nonempty hs fun i _ => Int.emod_lt_of_pos (n i) hd
  rw [Finset.sum_const, nsmul_eq_mul, mul_comm _ d] at hhigh
  rw [hsplit, mul_add]
  constructor
  · omega
  · omega

/-- Shares of a pot `m / d` in proportion to holdings that sum to `p` never
exceed it, and fall short of it by less than one unit for each holder. -/
theorem shares_bounds (s : Finset ι) (a : ι → ℤ) {p m d : ℤ} (hp : 0 < p) (hd : 0 < d)
    (hs : s.Nonempty) (hsum : ∑ i ∈ s, a i = p) :
    d * ∑ i ∈ s, a i * m / (p * d) ≤ m ∧ m < d * (∑ i ∈ s, a i * m / (p * d) + s.card) := by
  obtain ⟨hlow, hhigh⟩ := sum_ediv_bounds s (fun i => a i * m) (mul_pos hp hd) hs
  rw [← Finset.sum_mul, hsum, mul_assoc] at hlow hhigh
  exact ⟨le_of_mul_le_mul_left hlow hp, lt_of_mul_lt_mul_left hhigh hp.le⟩

theorem share_bounds {a p t f d : ℤ} (ha : 0 < a) (hap : a ≤ p) (hpt : p ≤ t) (hf : 0 ≤ f)
    (hd : 0 < d) : a * f / d ≤ a * t * f / (p * d) ∧ a * t * f / (p * d) ≤ t * f / d := by
  have hp : 0 < p := ha.trans_le hap
  constructor
  · rw [Int.le_ediv_iff_mul_le (mul_pos hp hd)]
    calc a * f / d * (p * d) = p * (a * f / d * d) := by ring
      _ ≤ p * (a * f) := mul_le_mul_of_nonneg_left (Int.ediv_mul_le _ hd.ne') hp.le
      _ ≤ t * (a * f) := mul_le_mul_of_nonneg_right hpt (mul_nonneg ha.le hf)
      _ = a * t * f := by ring
  · have ht : 0 ≤ t := (hp.trans_le hpt).le
    rw [Int.le_ediv_iff_mul_le hd]
    refine le_of_mul_le_mul_left ?_ hp
    calc p * (a * t * f / (p * d) * d) = a * t * f / (p * d) * (p * d) := by ring
      _ ≤ a * t * f := Int.ediv_mul_le _ (mul_pos hp hd).ne'
      _ = a * (t * f) := by ring
      _ ≤ p * (t * f) := mul_le_mul_of_nonneg_right hap (mul_nonneg ht hf)

theorem ediv_le_ediv_of_mul_le {n n' d d' : ℤ} (hd : 0 < d) (hd' : 0 < d')
    (h : n * d' ≤ n' * d) : n / d ≤ n' / d' := by
  rw [Int.le_ediv_iff_mul_le hd']
  refine le_of_mul_le_mul_right ?_ hd
  calc n / d * d' * d = n / d * d * d' := by ring
    _ ≤ n * d' := mul_le_mul_of_nonneg_right (Int.ediv_mul_le _ hd.ne') hd'.le
    _ ≤ n' * d := h

theorem share_le_share {a p t p' t' f d : ℤ} (ha : 0 ≤ a) (hp : 0 < p) (hp' : 0 < p')
    (hf : 0 ≤ f) (hd : 0 < d) (h : t * p' ≤ t' * p) :
    a * t * f / (p * d) ≤ a * t' * f / (p' * d) := by
  apply ediv_le_ediv_of_mul_le (mul_pos hp hd) (mul_pos hp' hd)
  calc a * t * f * (p' * d) = t * p' * (a * f * d) := by ring
    _ ≤ t' * p * (a * f * d) :=
        mul_le_mul_of_nonneg_right h (mul_nonneg (mul_nonneg ha hf) hd.le)
    _ = a * t' * f * (p * d) := by ring

/-- Others who join a holding make its shares no larger, though they pay into
the pot. -/
theorem share_diluted {a p t s f d : ℤ} (ha : 0 ≤ a) (hp : 0 < p) (hpt : p ≤ t) (hs : 0 ≤ s)
    (hf : 0 ≤ f) (hd : 0 < d) : a * (t + s) * f / ((p + s) * d) ≤ a * t * f / (p * d) := by
  apply share_le_share ha (by omega) hp hf hd
  have hmore : s * p ≤ t * s := by
    rw [mul_comm]
    exact mul_le_mul_of_nonneg_right hpt hs
  rw [add_mul, mul_add]
  omega

theorem share_enriched {a p t s f d : ℤ} (ha : 0 ≤ a) (hp : 0 < p) (hs : 0 ≤ s) (hf : 0 ≤ f)
    (hd : 0 < d) : a * t * f / (p * d) ≤ a * (t + s) * f / (p * d) :=
  share_le_share ha hp hp hf hd (mul_le_mul_of_nonneg_right (le_add_of_nonneg_right hs) hp.le)

theorem share_mono {a a' p t f d : ℤ} (ha : 0 < a) (haa' : a ≤ a') (hp : 0 ≤ p) (hpt : p ≤ t)
    (hf : 0 ≤ f) (hd : 0 < d) :
    a * (t + a) * f / ((p + a) * d) ≤ a' * (t + a') * f / ((p + a') * d) := by
  apply ediv_le_ediv_of_mul_le (mul_pos (by omega) hd) (mul_pos (by omega) hd)
  have hshare : a * (p + a') ≤ a' * (p + a) := by
    have hown := mul_le_mul_of_nonneg_right haa' hp
    rw [mul_add, mul_add, mul_comm a' a]
    omega
  have hprod : a * (p + a') * (t + a) ≤ a' * (p + a) * (t + a') :=
    mul_le_mul hshare (by omega) (by omega) (mul_nonneg (by omega) (by omega))
  calc a * (t + a) * f * ((p + a') * d) = a * (p + a') * (t + a) * (f * d) := by ring
    _ ≤ a' * (p + a) * (t + a') * (f * d) :=
        mul_le_mul_of_nonneg_right hprod (mul_nonneg hf hd.le)
    _ = a' * (t + a') * f * ((p + a) * d) := by ring

theorem kept_le {t f d : ℤ} (ht : 0 ≤ t) (hd : 0 < d) (hf : f ≤ d) : t * f / d ≤ t := by
  apply Int.ediv_le_of_le_mul hd
  exact mul_le_mul_of_nonneg_left hf ht

end PredictX.ProportionalShares
