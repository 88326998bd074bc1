import Mathlib
import LfuCache.Proofs.Placement.Costs
import LfuCache.Proofs.Placement.Sample
import LfuCache.Shard

/-!
# The steps that operations share

What a removal, a promotion and a sample do, and what they all leave alone: the budgets and
the size of a sample are set once.
-/

namespace LfuCache.Shard

/-! ## Records -/

section Records

variable (s : Shard) (outcome : Outcome) (cause : RemovalCause)

@[simp]
theorem entries_record : (s.record outcome).entries = s.entries := rfl

@[simp]
theorem used_record : (s.record outcome).used = s.used := rfl

@[simp]
theorem entries_recordRemoval : (s.recordRemoval cause).entries = s.entries := by
  cases cause <;> rfl

@[simp]
theorem used_recordRemoval : (s.recordRemoval cause).used = s.used := by
  cases cause <;> rfl

@[simp]
theorem placement_recordRemoval : (s.recordRemoval cause).placement = s.placement := by
  cases cause <;> rfl

end Records

/-! ## A removal -/

variable {s : Shard} {key : Key} {entry : Entry}

theorem removeEntry_of_some (cause : RemovalCause) (h : s.entries[key]? = some entry) :
    s.removeEntry key cause =
      (some (removalOf cause entry), (s.without key entry).recordRemoval cause) := by
  simp only [removeEntry, h]

theorem removeEntry_of_none (cause : RemovalCause) (h : s.entries[key]? = none) :
    s.removeEntry key cause = (none, s) := by
  simp only [removeEntry, h]

theorem removeEntry_fst (s : Shard) (key : Key) (cause : RemovalCause) :
    (s.removeEntry key cause).1 = (s.entries[key]?).map (removalOf cause) := by
  cases h : s.entries[key]? with
  | none => rw [removeEntry_of_none cause h, Option.map_none]
  | some entry => rw [removeEntry_of_some cause h, Option.map_some]

theorem get_removeEntry (s : Shard) (key other : Key) (cause : RemovalCause) :
    (s.removeEntry key cause).2.entries[other]? =
      if key = other then none else s.entries[other]? := by
  cases h : s.entries[key]? with
  | none =>
    rw [removeEntry_of_none cause h]
    by_cases hkey : key = other
    · subst hkey
      simp [h]
    · simp [hkey]
  | some entry => simp [removeEntry_of_some cause h, without, Map.get_erase]

theorem removeAll_cons (cause : RemovalCause) (key : Key) (keys : List Key) (s : Shard) :
    removeAll cause (key :: keys) s =
      ((s.removeEntry key cause).1.toList ++ (removeAll cause keys (s.removeEntry key cause).2).1,
        (removeAll cause keys (s.removeEntry key cause).2).2) := rfl

theorem get_removeAll (cause : RemovalCause) (keys : List Key) (s : Shard) (other : Key) :
    (removeAll cause keys s).2.entries[other]? =
      if other ∈ keys then none else s.entries[other]? := by
  induction keys generalizing s with
  | nil => simp [removeAll]
  | cons key keys ih =>
    rw [removeAll_cons, ih, get_removeEntry]
    simp only [List.mem_cons]
    grind

/-! ## A promotion -/

theorem get_promote (s : Shard) (key other : Key) (cost : Nat) :
    ∃ segment : Segment → Segment, (s.promote key cost).entries[other]? =
      (s.entries[other]?).map fun entry => { entry with segment := segment entry.segment } := by
  unfold promote
  split
  · simp only [Map.get_modify]
    by_cases hkey : key = other
    · subst hkey
      exact ⟨fun _ => .main, by rw [if_pos rfl]⟩
    · exact ⟨id, by simp [hkey]⟩
  · exact ⟨id, by simp⟩

/-! ## Settings -/

/-- The budgets and the size of a sample are the same. -/
structure SameSettings (s t : Shard) : Prop where
  capacity : t.capacity = s.capacity
  windowCapacity : t.placement.windowCapacity = s.placement.windowCapacity
  sampleSize : t.placement.sampleSize = s.placement.sampleSize

namespace SameSettings

theorem refl (s : Shard) : SameSettings s s := ⟨rfl, rfl, rfl⟩

theorem trans {s t u : Shard} (hst : SameSettings s t) (htu : SameSettings t u) :
    SameSettings s u where
  capacity := htu.capacity.trans hst.capacity
  windowCapacity := htu.windowCapacity.trans hst.windowCapacity
  sampleSize := htu.sampleSize.trans hst.sampleSize

theorem record (s : Shard) (outcome : Outcome) : SameSettings s (s.record outcome) :=
  ⟨rfl, rfl, rfl⟩

theorem withPlacement (s : Shard) {placement : Placement}
    (h : Placement.AfterDraws s.placement placement) : SameSettings s { s with placement } := by
  obtain ⟨random, rfl⟩ := h
  exact ⟨rfl, rfl, rfl⟩

theorem without (s : Shard) (key : Key) (entry : Entry) : SameSettings s (s.without key entry) := by
  refine ⟨rfl, by simp [Shard.without], ?_⟩
  cases hsegment : entry.segment with
  | window =>
    cases hslot : s.placement.windowSlots[key]? <;>
      simp [Shard.without, hsegment, Placement.remove, Placement.takeWindow, hslot]
  | main =>
    cases hslot : s.placement.mainSlots[key]? <;>
      simp [Shard.without, hsegment, Placement.remove, Placement.takeMain, hslot]

theorem promote (s : Shard) (key : Key) (cost : Nat) : SameSettings s (s.promote key cost) := by
  unfold Shard.promote Placement.promote
  cases hslot : s.placement.windowSlots[key]? with
  | none =>
    simp only [Placement.takeWindow, hslot, Option.map_none]
    exact .refl s
  | some n =>
    simp only [Placement.takeWindow, hslot, Option.map_some]
    exact ⟨rfl, rfl, rfl⟩

end SameSettings

end LfuCache.Shard
