import Mathlib
import LfuCache.Proofs.Shard.Bookings
import LfuCache.Proofs.Placement.RecordedCosts

/-!
# Sweeps of a shard

A sweep takes out what is over and leaves the rest in place. The order in which it meets the
keys shows only in the order of main: entries, costs and counters and the order of the window
are the same in the end.
-/

namespace LfuCache

variable {s t : Shard} {key : Key} {now : Instant}

namespace Shard

/-! ## The window and the draws -/

theorem random_removeAll (cause : RemovalCause) (keys : List Key) (s : Shard) :
    (removeAll cause keys s).2.placement.random = s.placement.random := by
  induction keys generalizing s with
  | nil => rfl
  | cons key keys ih =>
    rw [removeAll_cons, ih]
    cases hget : s.entries[key]? with
    | none => rw [removeEntry_of_none cause hget]
    | some entry =>
      rw [removeEntry_of_some cause hget, placement_recordRemoval]
      exact s.placement.random_remove key entry.segment entry.cost

theorem Accounted.window_removeEntry (hs : s.Accounted) (key : Key) (cause : RemovalCause) :
    (s.removeEntry key cause).2.placement.keysIn .window =
      (s.placement.keysIn .window).filter fun other => other ≠ key := by
  have hnodup := hs.places.indexed.nodup_keysIn .window
  -- A key that is not in the window is not filtered out of it.
  have hkept : key ∉ s.placement.keysIn .window →
      (s.placement.keysIn .window).filter (fun other => other ≠ key) =
        s.placement.keysIn .window := by
    intro hout
    rw [List.filter_eq_self]
    intro other hother
    exact decide_eq_true fun heq => hout (heq ▸ hother)
  cases hget : s.entries[key]? with
  | none =>
    rw [removeEntry_of_none cause hget, hkept]
    rw [hs.places.mem_iff, hget]
    simp
  | some entry =>
    rw [removeEntry_of_some cause hget, placement_recordRemoval]
    have hsegment := hs.places.mem_iff key .window
    rw [hget, Option.map_some, Option.some_inj] at hsegment
    cases hplace : entry.segment with
    | window =>
      rw [Shard.without, hplace, Placement.keysIn_remove_window hs.places.indexed,
        hnodup.erase_eq_filter]
      apply List.filter_congr
      intro other _
      simp [bne, beq_eq_decide]
    | main =>
      rw [hplace] at hsegment
      rw [Shard.without, hplace, Placement.keysIn_remove_of_ne hs.places.indexed _ _ (by decide), hkept]
      simp [hsegment]

theorem Accounted.window_removeAll (hs : s.Accounted) (cause : RemovalCause) (keys : List Key) :
    (removeAll cause keys s).2.placement.keysIn .window =
      (s.placement.keysIn .window).filter fun other => other ∉ keys := by
  induction keys generalizing s with
  | nil => simp [removeAll]
  | cons key keys ih =>
    rw [removeAll_cons, ih (hs.changes (changes_removeEntry s key cause)),
      hs.window_removeEntry, List.filter_filter]
    apply List.filter_congr
    intro other _
    simp [not_or, Bool.and_comm]

/-! ## One sweep -/

theorem mem_arrange_expiredKeys (s : Shard) (order : SweepOrder) (now : Instant) (key : Key) :
    key ∈ order.arrange (s.expiredKeys now) ↔
      ∃ entry, s.entries[key]? = some entry ∧ entry.isExpired now = true := by
  rw [(order.perm _).mem_iff, mem_expiredKeys, contents]
  cases hget : s.entries[key]? with
  | none => simp
  | some entry =>
    have hsame : entry.content.isExpired now = entry.isExpired now := rfl
    simp [Content.stale, hsame]

theorem get_swept (s : Shard) (order : SweepOrder) (now : Instant) (key : Key) :
    (s.removeExpiredIn order now).2.entries[key]? =
      (s.entries[key]?).filter fun entry => !entry.isExpired now := by
  rw [removeExpiredIn, get_removeAll]
  simp only [mem_arrange_expiredKeys]
  cases hget : s.entries[key]? with
  | none => simp
  | some entry => cases hexpired : entry.isExpired now <;> simp [Option.filter, hexpired]

theorem sweep_swept (s : Shard) (order again : SweepOrder) (now : Instant) :
    (s.removeExpiredIn order now).2.removeExpiredIn again now =
      ([], (s.removeExpiredIn order now).2) := by
  have hnone : again.arrange ((s.removeExpiredIn order now).2.expiredKeys now) = [] := by
    rw [List.eq_nil_iff_forall_not_mem]
    intro key hkey
    obtain ⟨entry, hget, hexpired⟩ := (mem_arrange_expiredKeys _ again now key).mp hkey
    rw [get_swept, Option.filter_eq_some_iff] at hget
    simp [hexpired] at hget
  rw [removeExpiredIn, hnone]
  rfl

/-! ## Two orders -/

/-- The same shard, but for the order in which main keeps its keys. -/
structure Alike (s t : Shard) : Prop where
  entries : ∀ key : Key, t.entries[key]? = s.entries[key]?
  used : t.used = s.used
  costs : ∀ segment, t.placement.costIn segment = s.placement.costIn segment
  counters : t.counters = s.counters
  window : t.placement.keysIn .window = s.placement.keysIn .window
  main : (t.placement.keysIn .main).Perm (s.placement.keysIn .main)
  settings : SameSettings s t
  random : t.placement.random = s.placement.random

theorem Alike.of_entries (hs : s.Accounted) (ht : t.Accounted)
    (hentries : ∀ key : Key, t.entries[key]? = s.entries[key]?) (hcounters : t.counters = s.counters)
    (hwindow : t.placement.keysIn .window = s.placement.keysIn .window)
    (hsettings : SameSettings s t) (hrandom : t.placement.random = s.placement.random) :
    s.Alike t where
  entries := hentries
  used := by rw [ht.used_eq, hs.used_eq, totalCost, totalCost, Map.total_congr hentries]
  costs segment := by
    rw [ht.places.cost_eq, hs.places.cost_eq, segmentCost, segmentCost, Map.total_congr hentries]
  counters := hcounters
  window := hwindow
  main := by
    rw [List.perm_ext_iff_of_nodup (ht.places.indexed.nodup_keysIn .main)
      (hs.places.indexed.nodup_keysIn .main)]
    intro key
    rw [ht.places.mem_iff, hs.places.mem_iff, hentries]
  settings := hsettings
  random := hrandom

theorem counters_ext {c d : Counters} (h : ∀ o, c.of o = d.of o) : c = d := by
  have hhits := h .hit
  have hmisses := h .miss
  have hsets := h .set
  have hrejections := h .rejection
  have hevictions := h .eviction
  have hexpirations := h .expiration
  cases c
  cases d
  simp_all [Counters.of]

theorem perm_sweeps (s : Shard) (order other : SweepOrder) (now : Instant) :
    (s.removeExpiredIn order now).1.Perm (s.removeExpiredIn other now).1 := by
  have hreported : ∀ o : SweepOrder, (s.removeExpiredIn o now).1 =
      (o.arrange (s.expiredKeys now)).filterMap fun key =>
        (s.contents key).map (Content.report .expired) := by
    intro o
    have h := congrArg (List.filterMap id) (s.sweep_contents o now).2.1.reported
    simpa [List.filterMap_map] using h.symm
  rw [hreported, hreported]
  exact ((order.perm _).trans (other.perm _).symm).filterMap _

theorem Accounted.alike_sweeps (hs : s.Accounted) (order other : SweepOrder) (now : Instant) :
    (s.removeExpiredIn order now).2.Alike (s.removeExpiredIn other now).2 := by
  have hchanges : ∀ o : SweepOrder, Changes s (s.removeExpiredIn o now).2 := fun o =>
    changes_removeAll .expired _ s
  have hbooked : ∀ o : SweepOrder, Booked s [] 0 0 (s.removeExpiredIn o now).1
      (s.removeExpiredIn o now).2 := fun o => .removeAll hs .expired _
  have hsettings : ∀ o : SweepOrder, SameSettings s (s.removeExpiredIn o now).2 := fun o =>
    .of_changes (hchanges o)
  have hcounters : (s.removeExpiredIn other now).2.counters =
      (s.removeExpiredIn order now).2.counters := by
    apply counters_ext
    intro o
    have hcounted : (countedRemovals (s.removeExpiredIn other now).1).Perm
        (countedRemovals (s.removeExpiredIn order now).1) :=
      (s.perm_sweeps other order now).filterMap _
    rw [(hbooked other).counters_eq, (hbooked order).counters_eq, hcounted.count_eq]
  have hwindow : (s.removeExpiredIn other now).2.placement.keysIn .window =
      (s.removeExpiredIn order now).2.placement.keysIn .window := by
    rw [removeExpiredIn, removeExpiredIn, hs.window_removeAll, hs.window_removeAll]
    apply List.filter_congr
    intro key _
    simp only [mem_arrange_expiredKeys]
  refine .of_entries (hs.changes (hchanges order)) (hs.changes (hchanges other)) ?_ hcounters
    hwindow ?_ ?_
  · intro key
    rw [get_swept, get_swept]
  · exact ⟨(hsettings other).capacity.trans (hsettings order).capacity.symm,
      (hsettings other).windowCapacity.trans (hsettings order).windowCapacity.symm,
      (hsettings other).sampleSize.trans (hsettings order).sampleSize.symm⟩
  · exact (random_removeAll .expired _ s).trans (random_removeAll .expired _ s).symm

end Shard

end LfuCache
