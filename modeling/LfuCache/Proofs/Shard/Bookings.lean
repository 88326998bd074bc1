import Mathlib
import LfuCache.Proofs.Shard.Capacity

/-!
# Bookings

`Booked` says what has changed in the counters, the size and the used cost of a shard between
two states. Each operation books its outcome, what it lets in, and each entry that it reports.
-/

namespace LfuCache

/-! ## Counters -/

def Counters.of (c : Counters) : Outcome → Nat
  | .hit => c.hits
  | .miss => c.misses
  | .set => c.sets
  | .rejection => c.rejections
  | .eviction => c.evictions
  | .expiration => c.expirations

theorem Counters.of_record (c : Counters) (counted outcome : Outcome) :
    (c.record counted).of outcome = c.of outcome + [counted].count outcome := by
  cases counted <;> cases outcome <;> rfl

/-- A removal that was asked for is not counted. -/
def RemovalCause.outcome? : RemovalCause → Option Outcome
  | .evicted => some .eviction
  | .expired => some .expiration
  | .deleted => none

def countedRemovals (removals : List Removal) : List Outcome :=
  removals.filterMap (·.cause.outcome?)

namespace Shard

/-! ## Bookings -/

/-- From one state to another these outcomes were counted, so many residents and so much cost
came in, and these entries went, each of them counted too. -/
structure Booked (s : Shard) (outcomes : List Outcome) (entered paid : ℤ)
    (removals : List Removal) (t : Shard) : Prop where
  counters_eq : ∀ o, t.counters.of o =
    s.counters.of o + outcomes.count o + (countedRemovals removals).count o
  size_eq : (t.size : ℤ) = s.size + entered - removals.length
  used_eq : (t.used : ℤ) = s.used + paid - (removals.map (·.cost)).sum

namespace Booked

variable {s t u : Shard} {outcomes more : List Outcome} {entered paid entered' paid' : ℤ}
  {removals removals' : List Removal} {key : Key} {entry : Entry}

theorem of_same (hcounters : t.counters = s.counters) (hsize : t.size = s.size)
    (hused : t.used = s.used) : Booked s [] 0 0 [] t where
  counters_eq o := by rw [hcounters]; rfl
  size_eq := by simp [hsize]
  used_eq := by simp [hused]

theorem trans (h : Booked s outcomes entered paid removals t)
    (hnext : Booked t more entered' paid' removals' u) :
    Booked s (outcomes ++ more) (entered + entered') (paid + paid') (removals ++ removals') u where
  counters_eq o := by
    rw [hnext.counters_eq, h.counters_eq, countedRemovals, countedRemovals, countedRemovals,
      List.filterMap_append, List.count_append, List.count_append]
    omega
  size_eq := by
    rw [hnext.size_eq, h.size_eq, List.length_append]
    omega
  used_eq := by
    rw [hnext.used_eq, h.used_eq, List.map_append, List.sum_append]
    omega

theorem record (h : Booked s outcomes entered paid removals t) (outcome : Outcome) :
    Booked s (outcomes ++ [outcome]) entered paid removals (t.record outcome) where
  counters_eq o := by
    have hrecord : (t.record outcome).counters.of o = t.counters.of o + [outcome].count o :=
      t.counters.of_record outcome o
    rw [hrecord, h.counters_eq, List.count_append]
    omega
  size_eq := h.size_eq
  used_eq := h.used_eq

/-! ## Removals -/

theorem without (hs : s.Accounted) (hget : s.entries[key]? = some entry) (cause : RemovalCause) :
    Booked s [] 0 0 [removalOf cause entry] ((s.without key entry).recordRemoval cause) where
  counters_eq o := by cases cause <;> cases o <;> rfl
  size_eq := by
    have hsize := Map.size_erase hget
    simp only [size, entries_recordRemoval, Shard.without, List.length_singleton]
    omega
  used_eq := by
    have hle := cost_le_totalCost hget
    have hused := hs.used_eq
    simp only [used_recordRemoval, Shard.without, List.map_singleton, List.sum_singleton, removalOf]
    omega

theorem removeEntry (hs : s.Accounted) (key : Key) (cause : RemovalCause) :
    Booked s [] 0 0 (s.removeEntry key cause).1.toList (s.removeEntry key cause).2 := by
  cases hget : s.entries[key]? with
  | none =>
    rw [removeEntry_of_none cause hget]
    exact of_same rfl rfl rfl
  | some entry =>
    rw [removeEntry_of_some cause hget]
    exact without hs hget cause

theorem removeAll (hs : s.Accounted) (cause : RemovalCause) (keys : List Key) :
    Booked s [] 0 0 (removeAll cause keys s).1 (removeAll cause keys s).2 := by
  induction keys generalizing s with
  | nil => exact of_same rfl rfl rfl
  | cons key keys ih =>
    rw [removeAll_cons]
    exact (removeEntry hs key cause).trans (ih (hs.changes (changes_removeEntry s key cause)))

theorem shrink (hs : s.Accounted) (frequency : UInt64 → Nat) (keep : Key) (turns : Nat) :
    Booked s [] 0 0 (shrink frequency keep turns s).1 (shrink frequency keep turns s).2 := by
  induction turns generalizing s with
  | zero => exact of_same rfl rfl rfl
  | succ turns ih =>
    by_cases hover : s.capacity < s.used
    · cases hvictim : s.nextVictim frequency keep with
      | none =>
        rw [shrink_of_none hover hvictim]
        exact of_same rfl rfl rfl
      | some v =>
        -- The draw books nothing, the victim is reported, and the rest is by induction.
        have hsampled := hs.changes (changes_sampled s keep)
        have hdraw : Booked s [] 0 0 [] (s.sampled keep) := of_same rfl rfl rfl
        rw [shrink_of_some hover hvictim]
        exact (hdraw.trans (removeEntry hsampled v.key .evicted)).trans
          (ih (hs.changes (changes_afterTurn s keep v)))
    · rw [shrink_of_le (by omega)]
      exact of_same rfl rfl rfl

/-! ## Entries that come in or change -/

theorem promote (s : Shard) (key : Key) (cost : Nat) : Booked s [] 0 0 [] (s.promote key cost) := by
  unfold Shard.promote
  split
  · exact of_same rfl Std.TreeMap.size_modify rfl
  · exact of_same rfl rfl rfl

theorem touch (s : Shard) (frequency : UInt64 → Nat) (key : Key) (entry : Entry) (hash : UInt64) :
    Booked s [] 0 0 [] (s.touch frequency key entry hash) := by
  unfold Shard.touch
  split
  · exact promote s key entry.cost
  · exact of_same rfl rfl rfl

theorem store (hget : s.entries[key]? = none) (hash : UInt64) (value : ByteArray) (cost : Nat)
    (expiresAt : Option Instant) :
    Booked s [] 1 cost [] (s.store key hash value cost expiresAt) where
  counters_eq o := rfl
  size_eq := by
    simp only [size, Shard.store, Map.size_eq_total, Map.total_insert_new hget]
    simp
  used_eq := by simp [used_store]

theorem rewrite (hs : s.Accounted) (hget : s.entries[key]? = some entry) (value : ByteArray)
    (cost : Nat) (expiresAt : Option Instant) :
    Booked s [] 0 (cost - entry.cost) [] (s.rewrite key value cost expiresAt) := by
  have hrevise : Booked s [] 0 (cost - entry.cost) []
      (s.revise key entry value cost expiresAt) := by
    refine ⟨fun o => rfl, ?_, ?_⟩
    · have hsize := Map.total_insert_over (w := fun _ => 1)
        (v := { entry with value, cost, expiresAt }) hget
      simp only [size, Shard.revise, Map.size_eq_total]
      simp
      omega
    · have hle := cost_le_totalCost hget
      have hused := hs.used_eq
      simp only [Shard.revise, List.map_nil, List.sum_nil]
      omega
  simp only [Shard.rewrite, hget]
  split
  · simpa using hrevise.trans (promote _ key cost)
  · exact hrevise

end Booked

/-! ## Writes -/

variable {s t : Shard} {frequency : UInt64 → Nat} {key : Key} {hash : UInt64} {value : ByteArray}
  {cost : Nat} {expiresAt : Option Instant} {now : Instant} {result : SetResult}

/-- The cost of the entry under the key, unless its time is over. -/
def liveCost (s : Shard) (key : Key) (now : Instant) : Nat :=
  (Content.live now (s.contents key)).elim 0 (·.cost)

theorem liveCost_of_vacant (h : s.Vacant key now) : s.liveCost key now = 0 := by
  rw [liveCost, vacant_iff_live.mp h, Option.elim_none]

theorem liveCost_of_live {entry : Entry} (hget : s.entries[key]? = some entry)
    (hlive : entry.isExpired now = false) : s.liveCost key now = entry.cost := by
  rw [liveCost, contents_of_get hget, (Content.split_of_unexpired (c := entry.content) hlive).1]
  rfl

theorem not_vacant_of_live {entry : Entry} (hget : s.entries[key]? = some entry)
    (hlive : entry.isExpired now = false) : ¬s.Vacant key now := by
  intro hvacant
  rw [hvacant entry hget] at hlive
  exact absurd hlive (by simp)

theorem booked_rewritten {entry : Entry} (hs : s.Accounted) (hget : s.entries[key]? = some entry)
    (frequency : UInt64 → Nat) (hash : UInt64) (value : ByteArray) (cost : Nat)
    (expiresAt : Option Instant) :
    Booked s [] 0 (cost - entry.cost) []
      ((s.touch frequency key entry hash).rewrite key value cost expiresAt) := by
  obtain ⟨moved, hmget, hsame⟩ := Option.map_eq_some_iff.mp (contents_touched hget frequency hash)
  have hcost : moved.cost = entry.cost := congrArg Content.cost hsame
  have hrewrite := Booked.rewrite (hs.changes (changes_touch hget hash)) hmget value cost expiresAt
  rw [hcost] at hrewrite
  simpa using (Booked.touch s frequency key entry hash).trans hrewrite

theorem booked_admits (hs : s.Accounted) (hget : s.entries[key]? = none)
    (h : s.Admits frequency key hash value cost expiresAt result t) :
    Booked s [if result.admitted then .set else .rejection] (if result.admitted then 1 else 0)
      (if result.admitted then cost else 0) result.removed t := by
  cases h with
  | fits => exact (Booked.store hget hash value cost expiresAt).record .set
  | @refuse placement _ hdraws =>
    have hdraw : Booked s [] 0 0 [] { s with placement } := .of_same rfl rfl rfl
    exact hdraw.record .rejection
  | @displace placement victims _ hdraws hchosen =>
    have hdraw : Booked s [] 0 0 [] { s with placement } := .of_same rfl rfl rfl
    have hleft := hdraw.trans
      (.removeAll (hs.change (.draw hdraws)) .evicted (victims.map (·.key)))
    have hfree : (removeAll .evicted (victims.map (·.key)) { s with placement }).2.entries[key]? =
        none := by
      rw [get_removeAll, hget, ite_self]
    simpa using (hleft.trans (.store hfree hash value cost expiresAt)).record .set

/-- A write books its outcome and all that it reports. A new resident comes in if the key was
not live, and a live entry gives its cost back. -/
theorem booked_set (hs : s.Accounted)
    (h : s.set frequency key hash value cost expiresAt now = .ok (result, t)) :
    Booked s [if result.admitted then .set else .rejection]
      (if result.admitted ∧ s.Vacant key now then 1 else 0)
      (if result.admitted then cost - s.liveCost key now else 0) result.removed t := by
  have hsets := s.set_sets frequency key hash value cost expiresAt now
  rw [h] at hsets
  cases hsets with
  | tooLate => simpa using (Booked.removeEntry hs key .expired).record .rejection
  | new _ _ hvacant hadmits =>
    -- What was there is over. It goes whether the key is let in or not.
    have hleft := Booked.removeEntry hs key .expired
    have hin := booked_admits (hs.changes (changes_removeEntry s key .expired))
      (by rw [get_removeEntry, if_pos rfl]) hadmits
    simpa [hvacant, liveCost_of_vacant hvacant] using hleft.trans hin
  | @live entry _ _ hget hlive =>
    have hchanges := changes_rewritten hget frequency hash value cost expiresAt
    have hshrunk := (booked_rewritten hs hget frequency hash value cost expiresAt).trans
      (.shrink (hs.changes hchanges) frequency key
        ((s.touch frequency key entry hash).rewrite key value cost expiresAt).size)
    simpa [not_vacant_of_live hget hlive, liveCost_of_live hget hlive] using
      hshrunk.record .set

/-! ## Reads and deletes -/

theorem booked_get (hs : s.Accounted) (frequency : UInt64 → Nat) (key : Key) (now : Instant) :
    Booked s [if (s.get frequency key now).1.value.isSome then .hit else .miss] 0 0
      (s.get frequency key now).1.expired.toList (s.get frequency key now).2 := by
  have hsame : Booked s [] 0 0 [] s := .of_same rfl rfl rfl
  have hmiss : Booked s [.miss] 0 0 [] (s.record .miss) := hsame.record .miss
  have hhit : Booked s [.hit] 0 0 [] (s.record .hit) := hsame.record .hit
  cases hget : s.entries[key]? with
  | none =>
    simp only [get, hget]
    exact hmiss
  | some entry =>
    simp only [get, hget]
    split
    · exact hmiss.trans (.removeEntry (hs.change (.record s .miss)) key .expired)
    · exact hhit.trans (.touch _ frequency key entry entry.hash)

theorem booked_delete (hs : s.Accounted) (key : Key) (now : Instant) :
    Booked s [] 0 0 (s.delete key now).1.toList (s.delete key now).2 := by
  unfold delete
  split
  · exact .of_same rfl rfl rfl
  · exact .removeEntry hs key _

end Shard

end LfuCache
