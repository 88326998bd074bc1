import Mathlib
import Std.Data.TreeMap

/-!
# Maps and what they add up to

Look-ups after a change, and the sum of a weight over all values of a map. Both are read
off the list of the map, where each key stands once.
-/

open Std

namespace LfuCache.Map

/-! ## Values and totals -/

section Values

variable {α β : Type} {cmp : α → α → Ordering}

theorem values_eq (m : TreeMap α β cmp) : m.values = m.toList.map (·.2) := by
  have hfold : m.values = m.foldr (fun _ v l => v :: l) [] := rfl
  rw [hfold, TreeMap.foldr_eq_foldr_toList]
  induction m.toList with
  | nil => rfl
  | cons x l ih => rw [List.foldr_cons, ih, List.map_cons]

def total (weight : β → Nat) (m : TreeMap α β cmp) : Nat := (m.values.map weight).sum

theorem total_eq_toList (weight : β → Nat) (m : TreeMap α β cmp) :
    total weight m = (m.toList.map fun x => weight x.2).sum := by
  rw [total, values_eq, List.map_map]
  rfl

@[simp]
theorem total_empty (weight : β → Nat) : total weight (∅ : TreeMap α β cmp) = 0 := by
  rw [total_eq_toList]
  rfl

theorem total_add (u w : β → Nat) (m : TreeMap α β cmp) :
    total (fun v => u v + w v) m = total u m + total w m := by
  simp only [total]
  induction m.values with
  | nil => rfl
  | cons v l ih =>
    simp only [List.map_cons, List.sum_cons, ih]
    omega

theorem size_eq_total (m : TreeMap α β cmp) : m.size = total (fun _ => 1) m := by
  rw [total_eq_toList, ← TreeMap.length_toList]
  simp

end Values

variable {α β : Type} {cmp : α → α → Ordering} [TransCmp cmp] [LawfulEqCmp cmp]

/-! ## Look-ups -/

section Lookups

variable [DecidableEq α]

theorem get_insert (m : TreeMap α β cmp) (k a : α) (v : β) :
    (m.insert k v)[a]? = if k = a then some v else m[a]? := by
  simp only [TreeMap.getElem?_insert, LawfulEqCmp.compare_eq_iff_eq]

theorem get_erase (m : TreeMap α β cmp) (k a : α) :
    (m.erase k)[a]? = if k = a then none else m[a]? := by
  simp only [TreeMap.getElem?_erase, LawfulEqCmp.compare_eq_iff_eq]

theorem get_modify (m : TreeMap α β cmp) (k a : α) (f : β → β) :
    (m.modify k f)[a]? = if k = a then (m[k]?).map f else m[a]? := by
  simp only [TreeMap.getElem?_modify, LawfulEqCmp.compare_eq_iff_eq]

end Lookups

theorem mem_values {m : TreeMap α β cmp} {v : β} :
    v ∈ m.values ↔ ∃ k : α, m[k]? = some v := by
  rw [values_eq, List.mem_map]
  constructor
  · rintro ⟨⟨k, w⟩, hmem, rfl⟩
    exact ⟨k, TreeMap.mem_toList_iff_getElem?_eq_some.mp hmem⟩
  · rintro ⟨k, h⟩
    exact ⟨(k, v), TreeMap.mem_toList_iff_getElem?_eq_some.mpr h, rfl⟩

/-! ## Lists -/

theorem nodup_toList (m : TreeMap α β cmp) : m.toList.Nodup := by
  apply List.Pairwise.imp _ (TreeMap.distinct_keys_toList (t := m))
  intro x y hne heq
  exact hne (by rw [heq]; exact ReflCmp.compare_self)

theorem toList_perm_of_get_eq {m n : TreeMap α β cmp} (h : ∀ k : α, m[k]? = n[k]?) :
    m.toList.Perm n.toList := by
  rw [List.perm_ext_iff_of_nodup (nodup_toList m) (nodup_toList n)]
  rintro ⟨k, v⟩
  rw [TreeMap.mem_toList_iff_getElem?_eq_some, TreeMap.mem_toList_iff_getElem?_eq_some, h k]

theorem toList_perm_of_get {m : TreeMap α β cmp} {k : α} {v : β} (h : m[k]? = some v) :
    m.toList.Perm ((k, v) :: (m.erase k).toList) := by
  classical
  have hout : (k, v) ∉ (m.erase k).toList := by
    rw [TreeMap.mem_toList_iff_getElem?_eq_some, get_erase]
    simp
  rw [List.perm_ext_iff_of_nodup (nodup_toList m)
    (List.nodup_cons.mpr ⟨hout, nodup_toList _⟩)]
  rintro ⟨a, w⟩
  rw [List.mem_cons, TreeMap.mem_toList_iff_getElem?_eq_some,
    TreeMap.mem_toList_iff_getElem?_eq_some, get_erase, Prod.mk.injEq]
  by_cases hk : k = a
  · subst hk
    simp [h, eq_comm]
  · simp [hk, Ne.symm hk]

omit [LawfulEqCmp cmp] in
theorem not_lt_self (k : α) : cmp k k ≠ .lt := by
  rw [@ReflCmp.compare_self _ cmp]
  decide

omit [LawfulEqCmp cmp] in
theorem toList_eq_of_perm {m : TreeMap α β cmp} {l : List (α × β)} (hperm : m.toList.Perm l)
    (hsorted : l.Pairwise fun x y => cmp x.1 y.1 = .lt) : m.toList = l := by
  apply hperm.eq_of_pairwise _ TreeMap.ordered_keys_toList hsorted
  intro x y _ _ hxy hyx
  rw [@OrientedCmp.eq_swap _ cmp, hyx] at hxy
  exact absurd hxy (by decide)

theorem toList_insert_last {m : TreeMap α β cmp} {k : α} (v : β)
    (hlast : ∀ x ∈ m.toList, cmp x.1 k = .lt) : (m.insert k v).toList = m.toList ++ [(k, v)] := by
  classical
  have hnew : ∀ w, (k, w) ∉ m.toList := fun w hmem => not_lt_self k (hlast _ hmem)
  apply toList_eq_of_perm
  · rw [List.perm_ext_iff_of_nodup (nodup_toList _)
      (List.nodup_append_comm.mp (List.nodup_cons.mpr ⟨hnew v, nodup_toList m⟩))]
    rintro ⟨a, w⟩
    rw [TreeMap.mem_toList_iff_getElem?_eq_some, get_insert, List.mem_append,
      List.mem_singleton, Prod.mk.injEq]
    by_cases hk : k = a
    · subst hk
      simp [hnew w, eq_comm]
    · rw [if_neg hk, TreeMap.mem_toList_iff_getElem?_eq_some]
      simp [Ne.symm hk]
  · rw [List.pairwise_append]
    refine ⟨TreeMap.ordered_keys_toList, List.pairwise_singleton _ _, ?_⟩
    intro x hx y hy
    rw [List.mem_singleton.mp hy]
    exact hlast x hx

theorem toList_erase [DecidableEq α] (m : TreeMap α β cmp) (k : α) :
    (m.erase k).toList = m.toList.filter (fun x => x.1 ≠ k) := by
  apply toList_eq_of_perm
  · rw [List.perm_ext_iff_of_nodup (nodup_toList _) ((nodup_toList m).filter _)]
    rintro ⟨a, w⟩
    rw [List.mem_filter, TreeMap.mem_toList_iff_getElem?_eq_some, get_erase,
      TreeMap.mem_toList_iff_getElem?_eq_some]
    by_cases hk : k = a
    · simp [hk]
    · simp [hk, Ne.symm hk]
  · exact TreeMap.ordered_keys_toList.filter _

/-! ## Totals after a change -/

variable {w : β → Nat} {m : TreeMap α β cmp} {k : α} {v : β}

theorem total_congr {n : TreeMap α β cmp} (h : ∀ k : α, m[k]? = n[k]?) :
    total w m = total w n := by
  rw [total_eq_toList, total_eq_toList]
  exact ((toList_perm_of_get_eq h).map _).sum_nat

theorem total_congr_map {γ : Type} {n : TreeMap α γ cmp} {u : γ → Nat}
    (h : ∀ k : α, (m[k]?).map w = (n[k]?).map u) : total w m = total u n := by
  have hm : total id (m.map fun _ => w) = total w m := by
    rw [total_eq_toList, total_eq_toList, TreeMap.toList_map, List.map_map]
    rfl
  have hn : total id (n.map fun _ => u) = total u n := by
    rw [total_eq_toList, total_eq_toList, TreeMap.toList_map, List.map_map]
    rfl
  rw [← hm, ← hn]
  apply total_congr
  intro k
  rw [TreeMap.getElem?_map, TreeMap.getElem?_map, h]

theorem total_erase (h : m[k]? = some v) :
    total w (m.erase k) + w v = total w m := by
  have hperm := ((toList_perm_of_get h).map fun x => w x.2).sum_nat
  simp only [List.map_cons, List.sum_cons] at hperm
  rw [total_eq_toList, total_eq_toList, hperm, Nat.add_comm]

theorem size_erase (h : m[k]? = some v) : (m.erase k).size + 1 = m.size := by
  rw [size_eq_total, size_eq_total]
  exact total_erase h

theorem le_total (h : m[k]? = some v) : w v ≤ total w m := by
  rw [← total_erase h]
  exact Nat.le_add_left _ _

theorem total_insert (w : β → Nat) (m : TreeMap α β cmp) (k : α) (v : β) :
    total w (m.insert k v) = total w (m.erase k) + w v := by
  classical
  have hget : (m.insert k v)[k]? = some v := by simp
  have herase : ∀ a : α, ((m.insert k v).erase k)[a]? = (m.erase k)[a]? := by
    intro a
    by_cases hk : k = a <;> simp [get_erase, get_insert, hk]
  rw [← total_erase hget, total_congr herase]

theorem total_insert_new (h : m[k]? = none) :
    total w (m.insert k v) = total w m + w v := by
  classical
  have herase : ∀ a : α, (m.erase k)[a]? = m[a]? := by
    intro a
    by_cases hk : k = a
    · subst hk
      simp [h]
    · simp [get_erase, hk]
  rw [total_insert, total_congr herase]

theorem total_insert_over {old : β} (h : m[k]? = some old) :
    total w (m.insert k v) + w old = total w m + w v := by
  rw [total_insert, ← total_erase h]
  omega

theorem total_modify (f : β → β) (h : m[k]? = some v) :
    total w (m.modify k f) + w v = total w m + w (f v) := by
  classical
  have hget : ∀ a : α, (m.modify k f)[a]? = (m.insert k (f v))[a]? := by
    intro a
    rw [get_modify, get_insert, h]
    rfl
  rw [total_congr hget, total_insert_over h]

end LfuCache.Map
