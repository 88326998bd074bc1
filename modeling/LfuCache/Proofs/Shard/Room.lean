import Mathlib
import LfuCache.Proofs.Shard.Bookings

/-!
# Writes with room

A write for which the shard has room is let in and moves nobody, wherever the entries are
placed and whatever the frequencies are. Only an entry of the key itself that is over goes.
-/

namespace LfuCache.Shard

variable {s t : Shard} {frequency : UInt64 → Nat} {key : Key} {hash : UInt64} {value : ByteArray}
  {cost : Nat} {expiresAt : Option Instant} {now : Instant} {result : SetResult}

/-- The cost of what is under the key, over or not. -/
def heldCost (s : Shard) (key : Key) : Nat := (s.contents key).elim 0 (·.cost)

theorem heldCost_of_get {entry : Entry} (hget : s.entries[key]? = some entry) :
    s.heldCost key = entry.cost := by
  rw [heldCost, contents_of_get hget]
  rfl

theorem used_removeEntry (hs : s.Accounted) (key : Key) (cause : RemovalCause) :
    (s.removeEntry key cause).2.used + s.heldCost key = s.used := by
  have hbooked := (Booked.removeEntry hs key cause).used_eq
  rw [removeEntry_report] at hbooked
  rw [heldCost]
  cases hheld : s.contents key with
  | none =>
    simp only [hheld, Option.map_none, Option.toList_none, List.map_nil, List.sum_nil] at hbooked
    simp only [Option.elim_none]
    omega
  | some content =>
    simp only [hheld, Option.map_some, Option.toList_some, List.map_singleton, List.sum_singleton,
      Content.report] at hbooked
    simp only [Option.elim_some]
    omega

theorem set_of_room (hs : s.Accounted) (frequency : UInt64 → Nat) (hash : UInt64)
    (value : ByteArray) (htime : expiredAt expiresAt now = false)
    (hroom : s.used + cost ≤ s.capacity + s.heldCost key) :
    ∃ t, s.set frequency key hash value cost expiresAt now =
      .ok (⟨true, ((Content.stale now (s.contents key)).map (Content.report .expired)).toList⟩,
        t) := by
  have hremoved := used_removeEntry hs key .expired
  have hcapacity := (SameSettings.of_changes (changes_removeEntry s key .expired)).capacity
  have hsets := s.set_sets frequency key hash value cost expiresAt now
  generalize s.set frequency key hash value cost expiresAt now = answer at hsets
  cases hsets with
  | tooLarge => omega
  | tooLate _ hlate =>
    rw [htime] at hlate
    exact absurd hlate (by simp)
  | new _ _ hvacant hadmits =>
    rw [stale_of_vacant hvacant, ← removeEntry_report]
    cases hadmits with
    | fits => exact ⟨_, by rw [List.append_nil]⟩
    | refuse => omega
    | displace => omega
  | @live entry _ _ hget hlive =>
    have hchanges := changes_rewritten hget frequency hash value cost expiresAt
    have hsettings := SameSettings.of_changes hchanges
    have hused := (booked_rewritten hs hget frequency hash value cost expiresAt).used_eq
    have hheld := heldCost_of_get hget
    have hfits : ((s.touch frequency key entry hash).rewrite key value cost expiresAt).used ≤
        ((s.touch frequency key entry hash).rewrite key value cost expiresAt).capacity := by
      rw [hsettings.capacity]
      simp only [List.map_nil, List.sum_nil] at hused
      omega
    rw [stale_of_live hget hlive]
    simp only [overwrite, shrink_of_le hfits]
    exact ⟨_, rfl⟩

theorem contents_of_no_eviction
    (hhash : ∀ content, s.contents key = some content → content.hash = hash)
    (hset : s.set frequency key hash value cost expiresAt now =
      .ok (⟨true, ((Content.stale now (s.contents key)).map (Content.report .expired)).toList⟩,
        t)) :
    t.contents = Function.update s.contents key (some ⟨value, cost, hash, expiresAt⟩) := by
  obtain ⟨evicted, removals, hkey, hreports, hremoved, hcontents⟩ :=
    set_contents_of_admitted hhash hset rfl
  have hnone : removals = [] := List.self_eq_append_right.mp hremoved
  subst hnone
  have hnobody : evicted = [] := by simpa using hreports.reported
  rw [hcontents, hnobody, Contents.without_nil]

end LfuCache.Shard
