import Mathlib
import LfuCache.Placement
import LfuCache.Proofs.Map

/-!
# The indexes of a placement

Each segment keeps its keys in some order, and an index that leads from a key back to its
place. `Indexed` says that the two agree. Every change keeps that, and its effect on the
keys and on the cost of each segment is said here once.
-/

namespace LfuCache.Placement

/-! ## What a segment holds -/

/-- The keys of a segment. Those of the window stand with the oldest first. -/
def keysIn (p : Placement) : Segment → List Key
  | .window => p.window.values
  | .main => p.main.toList

def costIn (p : Placement) : Segment → Nat
  | .window => p.windowCost
  | .main => p.mainCost

theorem mem_keysIn_window {p : Placement} {key : Key} :
    key ∈ p.keysIn .window ↔ ∃ n : Nat, p.window[n]? = some key := Map.mem_values

theorem mem_keysIn_main {p : Placement} {key : Key} :
    key ∈ p.keysIn .main ↔ ∃ i : Nat, p.main[i]? = some key := by
  rw [keysIn, Array.mem_toList_iff, Array.mem_iff_getElem?]

/-- The indexes lead to where the keys are, and nowhere else. -/
structure Indexed (p : Placement) : Prop where
  window_slot : ∀ (key : Key) (n : Nat), p.windowSlots[key]? = some n ↔ p.window[n]? = some key
  arrival_lt : ∀ (key : Key) (n : Nat), p.window[n]? = some key → n < p.nextArrival
  main_slot : ∀ (key : Key) (i : Nat), p.mainSlots[key]? = some i ↔ p.main[i]? = some key

theorem indexed_empty (windowCapacity sampleSize : Nat) (random : Generator) :
    (empty windowCapacity sampleSize random).Indexed where
  window_slot key n := by simp [empty]
  arrival_lt key n := by simp [empty]
  main_slot key i := by simp [empty]

theorem indexed_clear (p : Placement) : p.clear.Indexed where
  window_slot key n := by simp [clear]
  arrival_lt key n := by simp [clear]
  main_slot key i := by simp [clear]

namespace Indexed

variable {p : Placement} {key : Key}

theorem mem_window_iff (h : p.Indexed) :
    key ∈ p.keysIn .window ↔ ∃ n, p.windowSlots[key]? = some n := by
  simp only [mem_keysIn_window, h.window_slot]

theorem mem_main_iff (h : p.Indexed) :
    key ∈ p.keysIn .main ↔ ∃ i, p.mainSlots[key]? = some i := by
  simp only [mem_keysIn_main, h.main_slot]

theorem nodup_keysIn (h : p.Indexed) (segment : Segment) : (p.keysIn segment).Nodup := by
  cases segment with
  | window =>
    rw [keysIn, Map.values_eq]
    apply (Map.nodup_toList p.window).map_on
    rintro ⟨n, key⟩ hn ⟨m, other⟩ hm (rfl : key = other)
    rw [Std.TreeMap.mem_toList_iff_getElem?_eq_some] at hn hm
    have hsame := (h.window_slot key n).mpr hn
    rw [(h.window_slot key m).mpr hm] at hsame
    rw [Option.some.inj hsame]
  | main =>
    rw [keysIn, List.nodup_iff_getElem?_ne_getElem?]
    intro i j hij hj heq
    have hget : p.main[j]? = some p.main[j] := Array.getElem?_eq_getElem (by simpa using hj)
    have hslot := (h.main_slot p.main[j] i).mpr (by simpa [hget] using heq)
    rw [(h.main_slot p.main[j] j).mpr hget] at hslot
    exact absurd (Option.some.inj hslot) (by omega)

end Indexed

/-! ## A key comes -/

theorem keysIn_insert_self {p : Placement} (h : p.Indexed) (key : Key) (segment : Segment)
    (cost : Nat) : (p.insert key segment cost).keysIn segment = p.keysIn segment ++ [key] := by
  cases segment with
  | window =>
    have hlast : ∀ x ∈ p.window.toList, compare x.1 p.nextArrival = .lt := by
      rintro ⟨n, k⟩ hmem
      rw [Std.TreeMap.mem_toList_iff_getElem?_eq_some] at hmem
      exact Nat.compare_eq_lt.mpr (h.arrival_lt k n hmem)
    simp only [insert, pushWindow, keysIn, Map.values_eq]
    rw [Map.toList_insert_last key hlast, List.map_append, List.map_singleton]
  | main => simp [insert, pushMain, keysIn]

theorem keysIn_insert_of_ne (p : Placement) (key : Key) {segment other : Segment} (cost : Nat)
    (hne : other ≠ segment) : (p.insert key segment cost).keysIn other = p.keysIn other := by
  cases segment with
  | window =>
    cases other with
    | window => exact absurd rfl hne
    | main => rfl
  | main =>
    cases other with
    | window => rfl
    | main => exact absurd rfl hne

theorem mem_keysIn_insert {p : Placement} (h : p.Indexed) (key other : Key)
    (segment place : Segment) (cost : Nat) :
    other ∈ (p.insert key segment cost).keysIn place ↔
      other ∈ p.keysIn place ∨ (other = key ∧ place = segment) := by
  by_cases hplace : place = segment
  · subst hplace
    simp [keysIn_insert_self h]
  · simp [keysIn_insert_of_ne p key cost hplace, hplace]

theorem costIn_insert (p : Placement) (key : Key) (segment place : Segment) (cost : Nat) :
    (p.insert key segment cost).costIn place =
      p.costIn place + if place = segment then cost else 0 := by
  cases segment <;> cases place <;> rfl

theorem Indexed.insert {p : Placement} (h : p.Indexed) {key : Key} {segment : Segment}
    (cost : Nat) (hnew : key ∉ p.keysIn segment) : (p.insert key segment cost).Indexed := by
  cases segment with
  | window =>
    have hfresh : p.window[p.nextArrival]? = none := by
      cases hget : p.window[p.nextArrival]? with
      | none => rfl
      | some other => exact absurd (h.arrival_lt other _ hget) (Nat.lt_irrefl _)
    have hslot : p.windowSlots[key]? = none := by
      cases hget : p.windowSlots[key]? with
      | none => rfl
      | some n => exact absurd (h.mem_window_iff.mpr ⟨n, hget⟩) hnew
    constructor
    · intro other n
      simp only [Placement.insert, pushWindow, Map.get_insert]
      by_cases hkey : key = other <;> by_cases hn : p.nextArrival = n
      · simp [hkey, hn]
      · subst hkey
        simp [hn, ← h.window_slot, hslot]
      · subst hn
        simp [hkey, h.window_slot, hfresh]
      · simp [hkey, hn, h.window_slot]
    · intro other n hget
      simp only [Placement.insert, pushWindow, Map.get_insert] at hget ⊢
      split at hget
      · omega
      · have hlt := h.arrival_lt other n hget
        omega
    · exact h.main_slot
  | main =>
    have hslot : p.mainSlots[key]? = none := by
      cases hget : p.mainSlots[key]? with
      | none => rfl
      | some i => exact absurd (h.mem_main_iff.mpr ⟨i, hget⟩) hnew
    refine ⟨h.window_slot, h.arrival_lt, ?_⟩
    intro other i
    simp only [Placement.insert, pushMain, Map.get_insert, Array.getElem?_push]
    by_cases hkey : key = other <;> by_cases hi : p.main.size = i
    · simp [hkey, hi]
    · subst hkey
      simp [hi, Ne.symm hi, ← h.main_slot, hslot]
    · subst hi
      simp [hkey, h.main_slot]
    · simp [hkey, Ne.symm hi, h.main_slot]

/-! ## A key goes -/

theorem remove_of_not_mem {p : Placement} (h : p.Indexed) {key : Key} {segment : Segment}
    (cost : Nat) (hout : key ∉ p.keysIn segment) : p.remove key segment cost = p := by
  cases segment with
  | window =>
    cases hslot : p.windowSlots[key]? with
    | none => simp [remove, takeWindow, hslot]
    | some n => exact absurd (h.mem_window_iff.mpr ⟨n, hslot⟩) hout
  | main =>
    cases hslot : p.mainSlots[key]? with
    | none => simp [remove, takeMain, hslot]
    | some i => exact absurd (h.mem_main_iff.mpr ⟨i, hslot⟩) hout

theorem getElem?_swapRemove {keys : Array Key} {i : Nat} (hi : i < keys.size) (j : Nat) :
    (swapRemove keys i)[j]? =
      if j + 1 < keys.size then (if j = i then keys[keys.size - 1]? else keys[j]?) else none := by
  have hlast : keys.size - 1 < keys.size := by omega
  simp only [swapRemove, Array.getElem?_pop, Array.size_swapIfInBounds]
  by_cases hj : j + 1 < keys.size
  · rw [if_pos hj, if_pos (by omega), Array.swapIfInBounds_def, dif_pos hi, dif_pos hlast,
      Array.getElem?_swap]
    by_cases hji : j = i
    · subst hji
      rw [if_pos rfl, if_neg (by omega), if_pos rfl]
      simp [hlast]
    · rw [if_neg hji, if_neg (by omega), if_neg (Ne.symm hji)]
  · rw [if_neg hj, if_neg (by omega)]

theorem swapRemove_eq_some_iff {keys : Array Key} {key last : Key} {i : Nat}
    (hunique : ∀ (a b : Nat) (k : Key), keys[a]? = some k → keys[b]? = some k → a = b)
    (hi : keys[i]? = some key) (hlast : keys[keys.size - 1]? = some last) (k : Key) (j : Nat) :
    (swapRemove keys i)[j]? = some k ↔
      k ≠ key ∧ if k = last then j = i else keys[j]? = some k := by
  have hlt : i < keys.size := (Array.getElem?_eq_some_iff.mp hi).1
  have hbound : ∀ k, keys[j]? = some k → j < keys.size :=
    fun k hj => (Array.getElem?_eq_some_iff.mp hj).1
  rw [getElem?_swapRemove hlt, hlast]
  by_cases hshort : j + 1 < keys.size
  · rw [if_pos hshort]
    by_cases hj : j = i
    · subst hj
      have hne : last ≠ key := by
        rintro rfl
        have := hunique _ _ _ hi hlast
        omega
      rw [if_pos rfl, hi]
      grind
    · have hkey : keys[j]? ≠ some key := fun hget => hj (hunique _ _ _ hget hi)
      have hend : keys[j]? ≠ some last := by
        intro hget
        have := hunique _ _ _ hget hlast
        omega
      rw [if_neg hj]
      grind
  · rw [if_neg hshort]
    have hcut : j < keys.size → j = keys.size - 1 := by omega
    grind

theorem Indexed.main_unique {p : Placement} (h : p.Indexed) {key : Key} {i j : Nat}
    (hi : p.main[i]? = some key) (hj : p.main[j]? = some key) : i = j := by
  have hslot := (h.main_slot key i).mpr hi
  rw [(h.main_slot key j).mpr hj] at hslot
  exact (Option.some.inj hslot).symm

theorem takeWindow_of_slot {p : Placement} {key : Key} {n : Nat} (cost : Nat)
    (hslot : p.windowSlots[key]? = some n) :
    p.remove key .window cost =
      { p with
        window := p.window.erase n
        windowSlots := p.windowSlots.erase key
        windowCost := p.windowCost - cost } := by
  simp [remove, takeWindow, hslot]

theorem Indexed.remove_window {p : Placement} (h : p.Indexed) {key : Key} {n : Nat} (cost : Nat)
    (hslot : p.windowSlots[key]? = some n) : (p.remove key .window cost).Indexed := by
  have hn : p.window[n]? = some key := (h.window_slot key n).mp hslot
  rw [takeWindow_of_slot cost hslot]
  refine ⟨?_, ?_, h.main_slot⟩
  · intro other m
    simp only [Map.get_erase]
    by_cases hkey : key = other
    · subst hkey
      by_cases hm : n = m
      · simp [hm]
      · simp [hm, ← h.window_slot, hslot]
    · by_cases hm : n = m
      · subst hm
        simp [hkey, h.window_slot, hn]
      · simp [hkey, hm, h.window_slot]
  · intro other m hget
    simp only [Map.get_erase] at hget
    split at hget
    · exact absurd hget (by simp)
    · exact h.arrival_lt other m hget

theorem Indexed.remove_main {p : Placement} (h : p.Indexed) {key : Key} {i : Nat} (cost : Nat)
    (hslot : p.mainSlots[key]? = some i) : (p.remove key .main cost).Indexed := by
  have hi : p.main[i]? = some key := (h.main_slot key i).mp hslot
  have hlt : i < p.main.size := (Array.getElem?_eq_some_iff.mp hi).1
  obtain ⟨last, hlast⟩ : ∃ last, p.main[p.main.size - 1]? = some last :=
    ⟨_, Array.getElem?_eq_getElem (by omega)⟩
  have hat := swapRemove_eq_some_iff (fun _ _ _ => h.main_unique) hi hlast
  refine ⟨?_, ?_, ?_⟩
  · simpa [remove, takeMain, hslot] using h.window_slot
  · simpa [remove, takeMain, hslot] using h.arrival_lt
  · intro other j
    simp only [remove, takeMain, hslot, Option.map_some, Option.getD_some]
    rw [hat]
    by_cases hmoves : last = key
    · -- The removed key was the last, and no other key moves.
      have hnone : (swapRemove p.main i)[i]? = none := by
        rw [Option.eq_none_iff_forall_ne_some]
        intro k hk
        rw [hat] at hk
        grind
      rw [hnone]
      simp only [Map.get_erase]
      have := h.main_slot other j
      grind
    · have hmoved : (swapRemove p.main i)[i]? = some last := by
        rw [hat]
        simp [hmoves]
      rw [hmoved]
      simp only [Map.get_insert, Map.get_erase]
      have := h.main_slot other j
      grind

theorem Indexed.remove {p : Placement} (h : p.Indexed) (key : Key) (segment : Segment)
    (cost : Nat) : (p.remove key segment cost).Indexed := by
  by_cases hmem : key ∈ p.keysIn segment
  · cases segment with
    | window =>
      obtain ⟨n, hslot⟩ := h.mem_window_iff.mp hmem
      exact h.remove_window cost hslot
    | main =>
      obtain ⟨i, hslot⟩ := h.mem_main_iff.mp hmem
      exact h.remove_main cost hslot
  · rw [remove_of_not_mem h cost hmem]
    exact h

theorem keysIn_remove_window {p : Placement} (h : p.Indexed) (key : Key) (cost : Nat) :
    (p.remove key .window cost).keysIn .window = (p.keysIn .window).erase key := by
  by_cases hmem : key ∈ p.keysIn .window
  · obtain ⟨n, hslot⟩ := h.mem_window_iff.mp hmem
    rw [takeWindow_of_slot cost hslot, (h.nodup_keysIn .window).erase_eq_filter]
    simp only [keysIn, Map.values_eq, Map.toList_erase, List.filter_map]
    congr 1
    apply List.filter_congr
    rintro ⟨m, other⟩ hx
    have hm := Std.TreeMap.mem_toList_iff_getElem?_eq_some.mp hx
    have hn := (h.window_slot key n).mp hslot
    have hsame : m = n ↔ other = key := by
      constructor
      · rintro rfl
        rw [hn] at hm
        exact (Option.some.inj hm).symm
      · rintro rfl
        rw [← h.window_slot, hslot] at hm
        exact (Option.some.inj hm).symm
    simp [hsame, bne, beq_eq_decide]
  · rw [remove_of_not_mem h cost hmem, List.erase_of_not_mem hmem]

theorem keysIn_remove_of_ne {p : Placement} (h : p.Indexed) (key : Key) {segment place : Segment}
    (cost : Nat) (hne : place ≠ segment) :
    (p.remove key segment cost).keysIn place = p.keysIn place := by
  by_cases hmem : key ∈ p.keysIn segment
  · cases segment with
    | window =>
      obtain ⟨n, hslot⟩ := h.mem_window_iff.mp hmem
      cases place with
      | window => exact absurd rfl hne
      | main => simp [remove, takeWindow, hslot, keysIn]
    | main =>
      obtain ⟨i, hslot⟩ := h.mem_main_iff.mp hmem
      cases place with
      | window => simp [remove, takeMain, hslot, keysIn]
      | main => exact absurd rfl hne
  · rw [remove_of_not_mem h cost hmem]

theorem mem_keysIn_remove {p : Placement} (h : p.Indexed) (key other : Key)
    (segment place : Segment) (cost : Nat) :
    other ∈ (p.remove key segment cost).keysIn place ↔
      other ∈ p.keysIn place ∧ ¬(other = key ∧ place = segment) := by
  by_cases hplace : place = segment
  · subst hplace
    cases place with
    | window =>
      rw [keysIn_remove_window h, (h.nodup_keysIn .window).mem_erase_iff]
      tauto
    | main =>
      by_cases hmem : key ∈ p.keysIn .main
      · obtain ⟨i, hslot⟩ := h.mem_main_iff.mp hmem
        have hi : p.main[i]? = some key := (h.main_slot key i).mp hslot
        obtain ⟨last, hlast⟩ : ∃ last, p.main[p.main.size - 1]? = some last :=
          ⟨_, Array.getElem?_eq_getElem
            (by have := (Array.getElem?_eq_some_iff.mp hi).1; omega)⟩
        have hat := swapRemove_eq_some_iff (fun _ _ _ => h.main_unique) hi hlast other
        have hmain : (p.remove key .main cost).main = swapRemove p.main i := by
          simp [remove, takeMain, hslot]
        rw [mem_keysIn_main, mem_keysIn_main, hmain]
        simp only [hat]
        grind
      · rw [remove_of_not_mem h cost hmem]
        grind
  · rw [keysIn_remove_of_ne h key cost hplace]
    simp [hplace]

theorem costIn_remove {p : Placement} (h : p.Indexed) {key : Key} {segment : Segment}
    (place : Segment) (cost : Nat) (hmem : key ∈ p.keysIn segment) :
    (p.remove key segment cost).costIn place =
      p.costIn place - if place = segment then cost else 0 := by
  cases segment with
  | window =>
    obtain ⟨n, hslot⟩ := h.mem_window_iff.mp hmem
    cases place <;> simp [remove, takeWindow, hslot, costIn]
  | main =>
    obtain ⟨i, hslot⟩ := h.mem_main_iff.mp hmem
    cases place <;> simp [remove, takeMain, hslot, costIn]

/-! ## A key moves, or its cost changes -/

theorem promote_of_mem {p : Placement} (h : p.Indexed) {key : Key} (cost : Nat)
    (hmem : key ∈ p.keysIn .window) :
    p.promote key cost = (true, (p.remove key .window cost).insert key .main cost) := by
  obtain ⟨n, hslot⟩ := h.mem_window_iff.mp hmem
  simp [promote, remove, takeWindow, hslot, insert]

theorem promote_of_not_mem {p : Placement} (h : p.Indexed) {key : Key} (cost : Nat)
    (hout : key ∉ p.keysIn .window) : p.promote key cost = (false, p) := by
  cases hslot : p.windowSlots[key]? with
  | none => simp [promote, takeWindow, hslot]
  | some n => exact absurd (h.mem_window_iff.mpr ⟨n, hslot⟩) hout

theorem keysIn_adjustCost (p : Placement) (segment place : Segment) (old new : Nat) :
    (p.adjustCost segment old new).keysIn place = p.keysIn place := by
  cases segment <;> cases place <;> rfl

theorem Indexed.adjustCost {p : Placement} (h : p.Indexed) (segment : Segment) (old new : Nat) :
    (p.adjustCost segment old new).Indexed := by
  cases segment <;> exact ⟨h.window_slot, h.arrival_lt, h.main_slot⟩

theorem costIn_adjustCost (p : Placement) (segment place : Segment) (old new : Nat) :
    (p.adjustCost segment old new).costIn place =
      if place = segment then p.costIn place - old + new else p.costIn place := by
  cases segment <;> cases place <;> rfl

/-! ## What never changes -/

@[simp]
theorem windowCapacity_remove (p : Placement) (key : Key) (segment : Segment) (cost : Nat) :
    (p.remove key segment cost).windowCapacity = p.windowCapacity := by
  cases segment with
  | window => cases hslot : p.windowSlots[key]? <;> simp [remove, takeWindow, hslot]
  | main => cases hslot : p.mainSlots[key]? <;> simp [remove, takeMain, hslot]

theorem random_remove (p : Placement) (key : Key) (segment : Segment) (cost : Nat) :
    (p.remove key segment cost).random = p.random := by
  cases segment with
  | window => cases hslot : p.windowSlots[key]? <;> simp [remove, takeWindow, hslot]
  | main => cases hslot : p.mainSlots[key]? <;> simp [remove, takeMain, hslot]

end LfuCache.Placement
