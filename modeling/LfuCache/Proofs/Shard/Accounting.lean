import Mathlib
import LfuCache.Proofs.Shard.Changes

/-!
# The accounts of a shard

Three things are kept side by side: the entries, their places, and the sum of their costs.
They agree in a new shard, and each kind of change keeps them together.
-/

namespace LfuCache.Shard

/-- The entries, their places and the used cost agree. -/
structure Accounted (s : Shard) : Prop where
  places : s.placement.Places s.entries
  used_eq : s.used = totalCost s.entries

theorem accounted_empty (capacity windowCapacity sampleSize : Nat) (random : Generator) :
    (empty capacity (.empty windowCapacity sampleSize random)).Accounted where
  places := by
    apply Placement.places_empty (Placement.indexed_empty _ _ _)
    · intro segment
      cases segment <;> rfl
    · intro segment
      cases segment <;> rfl
  used_eq := by simp [empty, totalCost]

namespace Accounted

variable {s t : Shard} {key : Key} {entry : Entry}

/-! ## Each kind of change -/

theorem without (h : s.Accounted) (hget : s.entries[key]? = some entry) :
    (s.without key entry).Accounted where
  places := h.places.erase hget
  used_eq := by
    have herase := totalCost_erase hget
    have hused := h.used_eq
    simp only [Shard.without]
    omega

theorem promote (h : s.Accounted) (hget : s.entries[key]? = some entry)
    (hwindow : entry.segment = .window) : (s.promote key entry.cost).Accounted := by
  obtain ⟨hmoves, hplaces⟩ := h.places.promote hget hwindow
  unfold Shard.promote
  split
  · rename_i placement hpromote
    rw [hpromote] at hplaces
    refine ⟨hplaces, ?_⟩
    rw [h.used_eq]
    exact (totalCost_modify_segment hget .main).symm
  · exact h

theorem revise (h : s.Accounted) (hget : s.entries[key]? = some entry) (value : ByteArray)
    (cost : Nat) (expiresAt : Option Instant) :
    (s.revise key entry value cost expiresAt).Accounted where
  places := h.places.adjust hget { entry with value, cost, expiresAt } rfl
  used_eq := by
    have hover := totalCost_insert_over hget { entry with value, cost, expiresAt }
    have hle := cost_le_totalCost hget
    have hused := h.used_eq
    simp only at hover
    simp only [Shard.revise]
    omega

theorem store (h : s.Accounted) (hget : s.entries[key]? = none) (hash : UInt64)
    (value : ByteArray) (cost : Nat) (expiresAt : Option Instant) :
    (s.store key hash value cost expiresAt).Accounted where
  places := h.places.insert hget ⟨value, cost, hash, expiresAt, _⟩
  used_eq := by rw [Shard.store, totalCost_insert_new hget, h.used_eq]

theorem clear (s : Shard) : s.clear.2.Accounted where
  places := by
    apply Placement.places_empty (Placement.indexed_clear _)
    · intro segment
      cases segment <;> rfl
    · intro segment
      cases segment <;> rfl
  used_eq := by simp [Shard.clear, totalCost]

theorem change (h : s.Accounted) (hchange : Change s t) : t.Accounted := by
  cases hchange with
  | record => exact ⟨h.places, h.used_eq⟩
  | draw hdraws =>
    obtain ⟨random, rfl⟩ := hdraws
    exact ⟨h.places.withRandom random, h.used_eq⟩
  | remove hget => exact h.without hget
  | promote hget hwindow => exact h.promote hget hwindow
  | revise value cost expiresAt hget => exact h.revise hget value cost expiresAt
  | store hash value cost expiresAt hget => exact h.store hget hash value cost expiresAt
  | clear => exact Accounted.clear s

theorem changes (h : s.Accounted) (hchanges : Changes s t) : t.Accounted :=
  hchanges.keep (fun _ _ hchange hs => hs.change hchange) h

/-! ## Calls and runs -/

theorem call (h : s.Accounted) (call : ShardCall) : (s.call call).2.Accounted :=
  h.changes (changes_call s call)

theorem after (h : s.Accounted) (calls : List ShardCall) : (s.after calls).Accounted :=
  after_induction (fun _ c hs => hs.call c) h calls

theorem of_reachable (h : s.Reachable) : s.Accounted := by
  obtain ⟨capacity, windowCapacity, sampleSize, random, calls, rfl⟩ := h
  exact (accounted_empty capacity windowCapacity sampleSize random).after calls

theorem used_eq_segments (h : s.Accounted) :
    s.used = s.placement.windowCost + s.placement.mainCost := by
  have hwindow : s.placement.windowCost = segmentCost .window s.entries :=
    h.places.cost_eq .window
  have hmain : s.placement.mainCost = segmentCost .main s.entries := h.places.cost_eq .main
  rw [h.used_eq, totalCost_eq, hwindow, hmain]

theorem disjoint (h : s.Accounted) :
    (s.placement.keysIn .window).Disjoint (s.placement.keysIn .main) := by
  intro key hwindow hmain
  rw [h.places.mem_iff] at hwindow hmain
  rw [hwindow] at hmain
  exact absurd hmain (by decide)

end Accounted

/-- Whatever is called on a new shard, the entries, the two segments and the totals agree. -/
theorem accounts_agree_after (capacity windowCapacity sampleSize : Nat) (random : Generator)
    (calls : List ShardCall) :
    let s := (empty capacity (.empty windowCapacity sampleSize random)).after calls
    s.used = totalCost s.entries ∧
      s.placement.Indexed ∧
      (∀ segment, (s.placement.keysIn segment).Nodup) ∧
      (s.placement.keysIn .window).Disjoint (s.placement.keysIn .main) ∧
      (∀ key segment, s.segment? key = some segment ↔ key ∈ s.placement.keysIn segment) ∧
      (∀ segment, s.placement.costIn segment = segmentCost segment s.entries) ∧
      s.used = s.placement.windowCost + s.placement.mainCost := by
  intro s
  have h : s.Accounted := (accounted_empty capacity windowCapacity sampleSize random).after calls
  refine ⟨h.used_eq, h.places.indexed, h.places.indexed.nodup_keysIn, h.disjoint, ?_,
    h.places.cost_eq, h.used_eq_segments⟩
  intro key segment
  rw [h.places.mem_iff]
  rfl

end LfuCache.Shard
