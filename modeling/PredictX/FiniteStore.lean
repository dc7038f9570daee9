import Mathlib.Algebra.BigOperators.Group.Finset.Basic
import Mathlib.Algebra.Order.BigOperators.Group.Finset
import Mathlib.Data.Finmap
import Mathlib.Tactic.Abel

namespace PredictX.FiniteStore

abbrev Store (κ ν : Type*) := Finmap fun _ : κ => ν

variable {κ ν M : Type*} [DecidableEq κ]

theorem lookup_insert_eq (s : Store κ ν) (k k' : κ) (v : ν) :
    (s.insert k v).lookup k' = if k' = k then some v else s.lookup k' := by
  split
  · rename_i h
    subst h
    exact Finmap.lookup_insert s
  · rename_i h
    exact Finmap.lookup_insert_of_ne s h

theorem insert_lookup_self {s : Store κ ν} {k : κ} {v : ν} (h : s.lookup k = some v) :
    s.insert k v = s := by
  apply Finmap.ext_lookup
  intro k'
  rw [lookup_insert_eq]
  split
  · rename_i hk
    rw [hk, h]
  · rfl

theorem mem_insert_of_lookup {s : Store κ ν} {k : κ} {v : ν} (h : s.lookup k = some v) (v' : ν)
    (k' : κ) : k' ∈ s.insert k v' ↔ k' ∈ s := by
  rw [Finmap.mem_insert, or_iff_right_of_imp]
  rintro rfl
  exact Finmap.mem_of_lookup_eq_some h

/-- Apply a function to the entry under a key, if there is one. -/
def modify (s : Store κ ν) (k : κ) (f : ν → ν) : Store κ ν :=
  match s.lookup k with
  | some v => s.insert k (f v)
  | none => s

theorem modify_of_lookup {s : Store κ ν} {k : κ} {v : ν} (h : s.lookup k = some v) (f : ν → ν) :
    modify s k f = s.insert k (f v) := by
  rw [modify, h]

theorem lookup_modify (s : Store κ ν) (k k' : κ) (f : ν → ν) :
    (modify s k f).lookup k' = if k' = k then (s.lookup k).map f else s.lookup k' := by
  cases h : s.lookup k with
  | none =>
      have hsame : modify s k f = s := by rw [modify, h]
      rw [hsame, Option.map_none]
      split
      · rename_i hk
        rw [hk, h]
      · rfl
  | some v => rw [modify_of_lookup h, lookup_insert_eq, Option.map_some]

theorem modify_comm (s : Store κ ν) (k k' : κ) {f g : ν → ν} (h : ∀ v, f (g v) = g (f v)) :
    modify (modify s k' g) k f = modify (modify s k f) k' g := by
  apply Finmap.ext_lookup
  intro k''
  simp only [lookup_modify]
  by_cases hkk : k = k'
  · subst hkk
    by_cases hk : k'' = k
    · simp [hk, Function.comp_def, h]
    · simp [hk]
  · by_cases hk : k'' = k
    · simp [hk, hkk]
    · by_cases hk' : k'' = k'
      · simp [hk', Ne.symm hkk]
      · simp [hk, hk']

section MapValues

variable {ν' : Type*}

omit [DecidableEq κ] in
/-- Apply a function to every entry. -/
def mapValues (f : ν → ν') (s : Store κ ν) : Store κ ν' where
  entries := s.entries.map fun e => ⟨e.1, f e.2⟩
  nodupKeys := by
    rw [← Multiset.nodup_keys, Multiset.keys, Multiset.map_map]
    exact s.nodupKeys.nodup_keys

theorem lookup_mapValues (f : ν → ν') (s : Store κ ν) (k : κ) :
    (mapValues f s).lookup k = (s.lookup k).map f := by
  apply Option.ext
  intro v
  rw [← Option.mem_def, ← Option.mem_def, Finmap.mem_lookup_iff, Option.mem_map]
  constructor
  · intro h
    obtain ⟨⟨k', v'⟩, hentry, heq⟩ := Multiset.mem_map.mp h
    cases heq
    exact ⟨v', Finmap.mem_lookup_iff.mpr hentry, rfl⟩
  · rintro ⟨v', hv', rfl⟩
    exact Multiset.mem_map.mpr ⟨_, Finmap.mem_lookup_iff.mp hv', rfl⟩

theorem mapValues_insert (f : ν → ν') (s : Store κ ν) (k : κ) (v : ν) :
    mapValues f (s.insert k v) = (mapValues f s).insert k (f v) := by
  apply Finmap.ext_lookup
  intro k'
  rw [lookup_mapValues, lookup_insert_eq, lookup_insert_eq, lookup_mapValues]
  split
  · rfl
  · rfl

theorem mem_mapValues {f : ν → ν'} {s : Store κ ν} {k : κ} : k ∈ mapValues f s ↔ k ∈ s := by
  rw [← Finmap.lookup_isSome, lookup_mapValues, Option.isSome_map, Finmap.lookup_isSome]

end MapValues

theorem keys_insert (s : Store κ ν) (k : κ) (v : ν) :
    (s.insert k v).keys = insert k s.keys := by
  ext k'
  simp [Finmap.mem_keys, Finmap.mem_insert]

theorem notMem_of_lookup_none {s : Store κ ν} {k : κ} (h : s.lookup k = none) : k ∉ s.keys := by
  rwa [Finmap.mem_keys, ← Finmap.lookup_eq_none]

theorem mem_keys_of_lookup {s : Store κ ν} {k : κ} {v : ν} (h : s.lookup k = some v) :
    k ∈ s.keys :=
  Finmap.mem_keys.mpr (Finmap.mem_of_lookup_eq_some h)

section Total

variable [AddCommMonoid M]

def weightAt (weight : κ → ν → M) (s : Store κ ν) (k : κ) : M :=
  (s.lookup k).elim 0 (weight k)

/-- The sum of a weight over all entries. -/
def total (weight : κ → ν → M) (s : Store κ ν) : M :=
  ∑ k ∈ s.keys, weightAt weight s k

theorem weightAt_of_lookup (weight : κ → ν → M) {s : Store κ ν} {k : κ} {v : ν}
    (h : s.lookup k = some v) : weightAt weight s k = weight k v := by
  simp [weightAt, h]

theorem weightAt_of_none (weight : κ → ν → M) {s : Store κ ν} {k : κ}
    (h : s.lookup k = none) : weightAt weight s k = 0 := by
  simp [weightAt, h]

@[simp] theorem total_empty (weight : κ → ν → M) : total weight (∅ : Store κ ν) = 0 := by
  simp [total]

theorem total_eq_sum (weight : κ → ν → M) (s : Store κ ν) {K : Finset κ}
    (hK : s.keys ⊆ K) : total weight s = ∑ k ∈ K, weightAt weight s k := by
  apply Finset.sum_subset hK
  intro k _ hk
  apply weightAt_of_none weight
  rwa [Finmap.lookup_eq_none, ← Finmap.mem_keys]

theorem total_insert (weight : κ → ν → M) (s : Store κ ν) (k : κ) (v : ν) :
    total weight (s.insert k v) + weightAt weight s k = total weight s + weight k v := by
  rw [total, keys_insert, total_eq_sum weight s (Finset.subset_insert k s.keys)]
  rw [← Finset.add_sum_erase _ _ (Finset.mem_insert_self k s.keys),
    ← Finset.add_sum_erase _ (weightAt weight s) (Finset.mem_insert_self k s.keys)]
  have hrest : ∑ k' ∈ (insert k s.keys).erase k, weightAt weight (s.insert k v) k' =
      ∑ k' ∈ (insert k s.keys).erase k, weightAt weight s k' := by
    apply Finset.sum_congr rfl
    intro k' hk'
    have hne : k' ≠ k := (Finset.mem_erase.mp hk').1
    simp [weightAt, hne]
  rw [hrest, weightAt_of_lookup weight (Finmap.lookup_insert s)]
  abel

theorem total_insert_new (weight : κ → ν → M) {s : Store κ ν} {k : κ} (v : ν)
    (h : s.lookup k = none) :
    total weight (s.insert k v) = total weight s + weight k v := by
  have hsum := total_insert weight s k v
  rwa [weightAt_of_none weight h, add_zero] at hsum

theorem total_congr {w₁ w₂ : κ → ν → M} {s : Store κ ν}
    (h : ∀ k v, s.lookup k = some v → w₁ k v = w₂ k v) : total w₁ s = total w₂ s := by
  apply Finset.sum_congr rfl
  intro k _
  unfold weightAt
  cases hk : s.lookup k with
  | none => rfl
  | some v => exact h k v hk

theorem total_eq_of_weightAt {μ : Type*} {w₁ : κ → ν → M} {w₂ : κ → μ → M} {s : Store κ ν}
    {t : Store κ μ} (h : ∀ k, weightAt w₁ s k = weightAt w₂ t k) : total w₁ s = total w₂ t := by
  rw [total_eq_sum w₁ s Finset.subset_union_left, total_eq_sum w₂ t Finset.subset_union_right]
  exact Finset.sum_congr rfl fun k _ => h k

theorem total_eq_zero {weight : κ → ν → M} {s : Store κ ν}
    (h : ∀ k v, s.lookup k = some v → weight k v = 0) : total weight s = 0 := by
  apply Finset.sum_eq_zero
  intro k _
  unfold weightAt
  cases hk : s.lookup k with
  | none => rfl
  | some v => exact h k v hk

theorem total_add (w₁ w₂ : κ → ν → M) (s : Store κ ν) :
    total (fun k v => w₁ k v + w₂ k v) s = total w₁ s + total w₂ s := by
  unfold total
  rw [← Finset.sum_add_distrib]
  apply Finset.sum_congr rfl
  intro k _
  unfold weightAt
  cases s.lookup k <;> simp

theorem total_insert_gain {M : Type*} [AddCancelCommMonoid M] {weight : κ → ν → M}
    {s : Store κ ν} {k : κ} {v v' : ν} {gain : M} (h : s.lookup k = some v)
    (hgain : weight k v' = weight k v + gain) :
    total weight (s.insert k v') = total weight s + gain := by
  have hsum := total_insert weight s k v'
  rw [weightAt_of_lookup weight h, hgain, add_comm (weight k v) gain, ← add_assoc] at hsum
  exact add_right_cancel hsum

theorem total_reweight {w₁ w₂ : κ → ν → M} {s : Store κ ν} (k : κ)
    (h : ∀ k' v, k' ≠ k → w₁ k' v = w₂ k' v) :
    total w₁ s + weightAt w₂ s k = total w₂ s + weightAt w₁ s k := by
  rw [total_eq_sum w₁ s (Finset.subset_insert k s.keys),
    total_eq_sum w₂ s (Finset.subset_insert k s.keys)]
  rw [← Finset.add_sum_erase _ (weightAt w₁ s) (Finset.mem_insert_self k s.keys),
    ← Finset.add_sum_erase _ (weightAt w₂ s) (Finset.mem_insert_self k s.keys)]
  have hrest : ∑ k' ∈ (insert k s.keys).erase k, weightAt w₁ s k' =
      ∑ k' ∈ (insert k s.keys).erase k, weightAt w₂ s k' := by
    apply Finset.sum_congr rfl
    intro k' hk'
    have hne : k' ≠ k := (Finset.mem_erase.mp hk').1
    unfold weightAt
    cases s.lookup k' with
    | none => rfl
    | some v => exact h k' v hne
  rw [hrest]
  abel

end Total

section Order

variable [AddCommMonoid M] [PartialOrder M] [IsOrderedAddMonoid M]

theorem total_nonneg {weight : κ → ν → M} {s : Store κ ν}
    (h : ∀ k v, s.lookup k = some v → 0 ≤ weight k v) : 0 ≤ total weight s := by
  apply Finset.sum_nonneg
  intro k _
  unfold weightAt
  cases hk : s.lookup k with
  | none => exact le_rfl
  | some v => exact h k v hk

theorem weight_le_total {weight : κ → ν → M} {s : Store κ ν} {k : κ} {v : ν}
    (h : ∀ k v, s.lookup k = some v → 0 ≤ weight k v) (hk : s.lookup k = some v) :
    weight k v ≤ total weight s := by
  rw [← weightAt_of_lookup weight hk]
  apply Finset.single_le_sum (f := weightAt weight s) _ (mem_keys_of_lookup hk)
  intro k' _
  unfold weightAt
  cases hk' : s.lookup k' with
  | none => exact le_rfl
  | some v' => exact h k' v' hk'

end Order

end PredictX.FiniteStore
