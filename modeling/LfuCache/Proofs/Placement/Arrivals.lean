import Mathlib
import LfuCache.Placement
import LfuCache.Proofs.Map

/-!
# Arrival numbers

Only the order of the arrival numbers counts. A placement that has given all its numbers later
than another, by the same gap, places, finds and samples the same keys.
-/

namespace LfuCache.Placement

/-! ## Later numbers -/

/-- The second placement is the first one, with each arrival number later by the gap. -/
inductive Later (gap : Nat) : Placement → Placement → Prop where
  | mk {p : Placement} {window : Std.TreeMap Nat Key} {windowSlots : Std.TreeMap Key Nat} :
    (∀ arrival, window[arrival]? = if gap ≤ arrival then p.window[arrival - gap]? else none) →
    (∀ key : Key, windowSlots[key]? = (p.windowSlots[key]?).map (gap + ·)) →
    Later gap p { p with window, windowSlots, nextArrival := gap + p.nextArrival }

variable {gap : Nat} {p q : Placement}

theorem later_clear {sampleSize : Nat} (h : p.sampleSize = max sampleSize 1) :
    Later p.nextArrival (empty p.windowCapacity sampleSize p.random) p.clear := by
  have hnew : empty p.windowCapacity sampleSize p.random = { p.clear with nextArrival := 0 } := by
    rw [empty, ← h]
    rfl
  rw [hnew]
  exact .mk (by simp [clear]) (by simp [clear])

namespace Later

theorem windowCapacity (h : Later gap p q) : q.windowCapacity = p.windowCapacity := by
  cases h
  rfl

theorem windowCost (h : Later gap p q) : q.windowCost = p.windowCost := by
  cases h
  rfl

theorem windowHasRoom (h : Later gap p q) (cost : Nat) :
    q.windowHasRoom cost = p.windowHasRoom cost := by
  rw [Placement.windowHasRoom, h.windowCost, h.windowCapacity, Placement.windowHasRoom]

/-! ## Keys come and go -/

theorem pushWindow (h : Later gap p q) (key : Key) (cost : Nat) :
    Later gap (p.pushWindow key cost) (q.pushWindow key cost) := by
  obtain ⟨hwindow, hslots⟩ := h
  refine .mk ?_ ?_
  · intro arrival
    have hnext : gap + p.nextArrival = arrival ↔
        gap ≤ arrival ∧ p.nextArrival = arrival - gap := by omega
    simp only [Placement.pushWindow, Map.get_insert, hwindow, hnext]
    by_cases hle : gap ≤ arrival
    · simp [hle]
    · simp [hle]
  · intro other
    simp only [Placement.pushWindow, Map.get_insert, hslots]
    split <;> rfl

theorem pushMain (h : Later gap p q) (key : Key) (cost : Nat) :
    Later gap (p.pushMain key cost) (q.pushMain key cost) := by
  obtain ⟨hwindow, hslots⟩ := h
  exact .mk hwindow hslots

theorem insert (h : Later gap p q) (key : Key) (segment : Segment) (cost : Nat) :
    Later gap (p.insert key segment cost) (q.insert key segment cost) := by
  cases segment with
  | window => exact h.pushWindow key cost
  | main => exact h.pushMain key cost

theorem takeWindow (h : Later gap p q) (key : Key) (cost : Nat) :
    Option.Rel (Later gap) (p.takeWindow key cost) (q.takeWindow key cost) := by
  obtain ⟨hwindow, hslots⟩ := h
  unfold Placement.takeWindow
  rw [hslots]
  cases p.windowSlots[key]? with
  | none => exact .none
  | some taken =>
    refine .some (.mk ?_ ?_)
    · intro arrival
      have hsame : gap + taken = arrival ↔ gap ≤ arrival ∧ taken = arrival - gap := by omega
      simp only [Map.get_erase, hwindow, hsame]
      by_cases hle : gap ≤ arrival
      · simp [hle]
      · simp [hle]
    · intro other
      simp only [Map.get_erase, hslots]
      split <;> rfl

theorem takeMain (h : Later gap p q) (key : Key) (cost : Nat) :
    Option.Rel (Later gap) (p.takeMain key cost) (q.takeMain key cost) := by
  obtain ⟨hwindow, hslots⟩ := h
  unfold Placement.takeMain
  cases p.mainSlots[key]? with
  | none => exact .none
  | some i => exact .some (.mk hwindow hslots)

theorem getD {taken other : Option Placement} (h : Later gap p q)
    (htaken : Option.Rel (Later gap) taken other) : Later gap (taken.getD p) (other.getD q) := by
  cases htaken with
  | none => exact h
  | some hsome => exact hsome

theorem remove (h : Later gap p q) (key : Key) (segment : Segment) (cost : Nat) :
    Later gap (p.remove key segment cost) (q.remove key segment cost) := by
  cases segment with
  | window => exact h.getD (h.takeWindow key cost)
  | main => exact h.getD (h.takeMain key cost)

theorem adjustCost (h : Later gap p q) (segment : Segment) (old new : Nat) :
    Later gap (p.adjustCost segment old new) (q.adjustCost segment old new) := by
  obtain ⟨hwindow, hslots⟩ := h
  cases segment with
  | window => exact .mk hwindow hslots
  | main => exact .mk hwindow hslots

theorem promote (h : Later gap p q) (key : Key) (cost : Nat) :
    (q.promote key cost).1 = (p.promote key cost).1 ∧
      Later gap (p.promote key cost).2 (q.promote key cost).2 := by
  have htaken := h.takeWindow key cost
  unfold Placement.promote
  generalize p.takeWindow key cost = taken at htaken ⊢
  generalize q.takeWindow key cost = other at htaken ⊢
  cases htaken with
  | none => exact ⟨rfl, h⟩
  | some hsome => exact ⟨rfl, hsome.pushMain key cost⟩

theorem clear (h : Later gap p q) : Later gap p.clear q.clear := by
  obtain ⟨-, -⟩ := h
  exact .mk (by simp [Placement.clear]) (by simp [Placement.clear])

/-! ## Samples -/

theorem values (h : Later gap p q) : q.window.values = p.window.values := by
  obtain ⟨hwindow, -⟩ := h
  rename_i window _
  have hlist : window.toList = p.window.toList.map fun x => (gap + x.1, x.2) := by
    have hinj : Function.Injective fun x : Nat × Key => (gap + x.1, x.2) := by
      rintro ⟨m, key⟩ ⟨n, other⟩ heq
      simpa using heq
    apply Map.toList_eq_of_perm
    · rw [List.perm_ext_iff_of_nodup (Map.nodup_toList _) ((Map.nodup_toList _).map hinj)]
      rintro ⟨arrival, key⟩
      rw [Std.TreeMap.mem_toList_iff_getElem?_eq_some, hwindow, List.mem_map]
      constructor
      · intro hget
        split at hget
        · exact ⟨(arrival - gap, key), Std.TreeMap.mem_toList_iff_getElem?_eq_some.mpr hget,
            Prod.ext (by simp only; omega) rfl⟩
        · exact absurd hget (by simp)
      · rintro ⟨⟨first, _⟩, hmem, heq⟩
        obtain ⟨rfl, rfl⟩ := Prod.mk.inj heq
        rw [if_pos (by omega), Nat.add_sub_cancel_left]
        exact Std.TreeMap.mem_toList_iff_getElem?_eq_some.mp hmem
    · rw [List.pairwise_map]
      apply Std.TreeMap.ordered_keys_toList.imp
      intro x y hlt
      rw [Nat.compare_eq_lt] at hlt ⊢
      omega
  rw [Map.values_eq, Map.values_eq, hlist, List.map_map]
  rfl

theorem sample (h : Later gap p q) (exclude : List Key) :
    (q.sample exclude).1 = (p.sample exclude).1 ∧
      Later gap (p.sample exclude).2 (q.sample exclude).2 := by
  have holdest : q.oldestWindow exclude = p.oldestWindow exclude := by
    rw [oldestWindow, h.values, oldestWindow]
  obtain ⟨hwindow, hslots⟩ := h
  unfold Placement.sample
  rw [holdest]
  exact ⟨rfl, .mk hwindow hslots⟩

end Later

end LfuCache.Placement
