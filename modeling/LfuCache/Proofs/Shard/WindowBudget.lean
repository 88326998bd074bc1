import Mathlib
import LfuCache.Proofs.Shard.Capacity

/-!
# The budget of the window

The window of a shard never holds more than its budget when a call is over. Only two steps can
add to it. A new entry goes there if it fits, and an entry that outgrows it in a write leaves
with all that it costs by then.
-/

namespace LfuCache

namespace Placement

variable (p : Placement) (key : Key) (cost : Nat)

theorem windowCost_remove_le (segment : Segment) :
    (p.remove key segment cost).windowCost ≤ p.windowCost := by
  cases segment with
  | window => cases hslot : p.windowSlots[key]? <;> simp [remove, takeWindow, hslot]
  | main => cases hslot : p.mainSlots[key]? <;> simp [remove, takeMain, hslot]

theorem windowCost_promote_le : (p.promote key cost).2.windowCost ≤ p.windowCost := by
  unfold promote takeWindow
  cases hslot : p.windowSlots[key]? with
  | none => exact Nat.le_refl _
  | some n => exact Nat.sub_le _ _

theorem windowCost_promote {p : Placement} (h : p.Indexed) {key : Key} (cost : Nat)
    (hmem : key ∈ p.keysIn .window) :
    (p.promote key cost).2.windowCost = p.windowCost - cost := by
  obtain ⟨n, hslot⟩ := h.mem_window_iff.mp hmem
  simp [promote, takeWindow, hslot, pushMain]

end Placement

namespace Shard

variable {s t : Shard} {frequency : UInt64 → Nat} {key : Key} {entry : Entry} {hash : UInt64}
  {value : ByteArray} {cost : Nat} {expiresAt : Option Instant} {result : SetResult}

/-! ## Changes that add nothing -/

theorem placement_promote (s : Shard) (key : Key) (cost : Nat) :
    (s.promote key cost).placement = (s.placement.promote key cost).2 := by
  unfold promote Placement.promote
  cases s.placement.takeWindow key cost <;> rfl

theorem Easings.windowCost_le (h : Easings s t) :
    t.placement.windowCost ≤ s.placement.windowCost := by
  induction h with
  | refl => exact Nat.le_refl _
  | tail _ heasing ih =>
    refine Nat.le_trans ?_ ih
    cases heasing with
    | record => exact Nat.le_refl _
    | draw hdraws =>
      obtain ⟨random, rfl⟩ := hdraws
      exact Nat.le_refl _
    | remove => exact Placement.windowCost_remove_le _ _ _ _
    | promote =>
      rw [placement_promote]
      exact Placement.windowCost_promote_le _ _ _
    | clear => exact Nat.zero_le _

/-! ## A write over an entry -/

/-- With another cost, a window entry would take the window over its budget. -/
def Outgrows (s : Shard) (entry : Entry) (cost : Nat) : Prop :=
  entry.segment = .window ∧
    s.placement.windowCapacity < s.placement.windowCost - entry.cost + cost

instance (s : Shard) (entry : Entry) (cost : Nat) : Decidable (s.Outgrows entry cost) :=
  inferInstanceAs (Decidable (_ ∧ _))

theorem rewrite_of_get (hget : s.entries[key]? = some entry) (value : ByteArray) (cost : Nat)
    (expiresAt : Option Instant) :
    s.rewrite key value cost expiresAt =
      if s.Outgrows entry cost then (s.revise key entry value cost expiresAt).promote key cost
      else s.revise key entry value cost expiresAt := by
  have hsame : (entry.segment = .window ∧
      (s.revise key entry value cost expiresAt).placement.windowCapacity <
        (s.revise key entry value cost expiresAt).placement.windowCost) ↔
      s.Outgrows entry cost := by
    unfold Outgrows
    apply and_congr_right
    intro hwindow
    simp only [revise, Placement.adjustCost, hwindow]
  simp only [rewrite, hget, hsame]

theorem get_revise (s : Shard) (key : Key) (entry : Entry) (value : ByteArray) (cost : Nat)
    (expiresAt : Option Instant) :
    (s.revise key entry value cost expiresAt).entries[key]? =
      some { entry with value, cost, expiresAt } := by
  simp [revise]

/-! ## Within the budget -/

def WithinWindow (s : Shard) : Prop := s.placement.windowCost ≤ s.placement.windowCapacity

namespace WithinWindow

theorem of_easings (h : s.WithinWindow) (heasings : Easings s t) : t.WithinWindow := by
  unfold WithinWindow
  rw [(SameSettings.of_changes heasings.changes).windowCapacity]
  exact heasings.windowCost_le.trans h

theorem record (h : s.WithinWindow) (outcome : Outcome) : (s.record outcome).WithinWindow := h

theorem store (h : s.WithinWindow) (key : Key) (hash : UInt64) (value : ByteArray) (cost : Nat)
    (expiresAt : Option Instant) : (s.store key hash value cost expiresAt).WithinWindow := by
  by_cases hroom : s.placement.windowHasRoom cost
  · simp only [WithinWindow, Shard.store, hroom, if_true]
    exact of_decide_eq_true hroom
  · simp only [WithinWindow, Shard.store, hroom]
    exact h

theorem rewrite (h : s.WithinWindow) (hs : s.Accounted) (hget : s.entries[key]? = some entry)
    (value : ByteArray) (cost : Nat) (expiresAt : Option Instant) :
    (s.rewrite key value cost expiresAt).WithinWindow := by
  have hrevised := hs.revise hget value cost expiresAt
  have hplaced := hrevised.places.mem_of_get (s.get_revise key entry value cost expiresAt)
  rw [rewrite_of_get hget]
  unfold WithinWindow at *
  by_cases hout : s.Outgrows entry cost
  · -- The entry leaves with its new cost, so what stays is what had been beside it.
    obtain ⟨hwindow, hover⟩ := hout
    simp only [hwindow] at hplaced
    rw [if_pos ⟨hwindow, hover⟩, (SameSettings.promote _ key cost).windowCapacity,
      placement_promote, Placement.windowCost_promote hrevised.places.indexed cost hplaced]
    simp only [Shard.revise, Placement.adjustCost, hwindow]
    omega
  · rw [if_neg hout]
    cases hsegment : entry.segment with
    | main => simpa only [Shard.revise, Placement.adjustCost, hsegment] using h
    | window =>
      have hfits := not_and.mp hout hsegment
      simp only [Shard.revise, Placement.adjustCost, hsegment]
      omega

theorem admits (h : s.WithinWindow)
    (hadmits : s.Admits frequency key hash value cost expiresAt result t) : t.WithinWindow := by
  cases hadmits with
  | fits => exact (h.store key hash value cost expiresAt).record .set
  | refuse _ hdraws =>
    exact (h.of_easings (.single (.draw hdraws))).record .rejection
  | @displace placement victims _ hdraws =>
    have hleft := h.of_easings ((Relation.ReflTransGen.single (.draw hdraws)).trans
      (easings_removeAll .evicted (victims.map (·.key)) _))
    exact (hleft.store key hash value cost expiresAt).record .set

/-! ## Calls and runs -/

theorem call (h : s.WithinWindow) (hs : s.Accounted) (call : ShardCall) :
    (s.call call).2.WithinWindow := by
  cases call with
  | get frequency key now => exact h.of_easings (easings_get s frequency key now)
  | delete key now => exact h.of_easings (easings_delete s key now)
  | clear => exact h.of_easings (.single (.clear s))
  | removeExpired order now => exact h.of_easings (easings_removeAll .expired _ s)
  | set frequency key hash value cost expiresAt now =>
    have hsets := s.set_sets frequency key hash value cost expiresAt now
    simp only [Shard.call]
    generalize s.set frequency key hash value cost expiresAt now = answer at hsets
    cases hsets with
    | tooLarge => exact h
    | tooLate => exact (h.of_easings (easings_removeEntry s key .expired)).record .rejection
    | new _ _ _ hadmits => exact (h.of_easings (easings_removeEntry s key .expired)).admits hadmits
    | live _ _ hget =>
      have htouched : (s.touch frequency key _ hash).Accounted :=
        hs.changes (changes_touch hget hash)
      obtain ⟨moved, hmoved, -⟩ := Option.map_eq_some_iff.mp (contents_touched hget frequency hash)
      have hrewritten := (h.of_easings (easings_touch hget hash)).rewrite htouched hmoved value cost
        expiresAt
      exact (hrewritten.of_easings (easings_shrink key _ _)).record .set

theorem after (h : s.WithinWindow) (hs : s.Accounted) (calls : List ShardCall) :
    (s.after calls).WithinWindow := by
  induction calls generalizing s with
  | nil => exact h
  | cons call calls ih => exact ih (h.call hs call) (hs.call call)

end WithinWindow

theorem withinWindow_empty (capacity windowCapacity sampleSize : Nat) (random : Generator) :
    (empty capacity (.empty windowCapacity sampleSize random)).WithinWindow := Nat.zero_le _

end Shard

end LfuCache
