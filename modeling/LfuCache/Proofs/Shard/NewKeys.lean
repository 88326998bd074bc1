import Mathlib
import LfuCache.Proofs.Shard.Capacity

/-!
# Writing a new key

A write of a key that is not there, or is over, commits completely or not at all. Either the
key is stored and the victims chosen for it are gone, or only the generator has moved on and
a rejection is counted.
-/

namespace LfuCache.Shard

variable {s t : Shard} {frequency : UInt64 → Nat} {key : Key} {hash : UInt64} {value : ByteArray}
  {cost : Nat} {expiresAt : Option Instant} {now : Instant} {result : SetResult}

/-! ## What a commit is -/

/-- The new key is stored, the victims are gone, and the others are as they were. The window
takes the new entry if it has room after the victims have left. -/
structure Commits (s : Shard) (key : Key) (hash : UInt64) (value : ByteArray) (cost : Nat)
    (expiresAt : Option Instant) (victims : List Victim) (t : Shard) : Prop where
  accounted : t.Accounted
  not_victim : ∀ v ∈ victims, v.key ≠ key
  gone : ∀ v ∈ victims, t.entries[v.key]? = none
  kept : ∀ other ≠ key, (∀ v ∈ victims, v.key ≠ other) → t.entries[other]? = s.entries[other]?
  stored : ∃ segment, t.entries[key]? = some ⟨value, cost, hash, expiresAt, segment⟩ ∧
    (segment = .window ↔
      segmentCost .window (t.entries.erase key) + cost ≤ s.placement.windowCapacity)
  used_eq : t.used + Admission.freedBy victims = s.used + cost
  used_le : t.used ≤ s.capacity

/-- How a write of a new key can end, once an entry of the key that is over has gone. -/
inductive WritesNew (s : Shard) (frequency : UInt64 → Nat) (key : Key) (hash : UInt64)
    (value : ByteArray) (cost : Nat) (expiresAt : Option Instant) : SetResult → Shard → Prop where
  | room {t : Shard} : s.used + cost ≤ s.capacity →
    s.Commits key hash value cost expiresAt [] t →
    WritesNew s frequency key hash value cost expiresAt ⟨true, []⟩ t
  | lost {random : Generator} : s.capacity < s.used + cost →
    WritesNew s frequency key hash value cost expiresAt ⟨false, []⟩
      ({ s with placement := { s.placement with random } }.record .rejection)
  /-- The key is let in, and those who were chosen for it go. -/
  | won {victims : List Victim} {t : Shard} : s.capacity < s.used + cost →
    Chosen s.entries frequency hash (s.used + cost - s.capacity) victims →
    s.Commits key hash value cost expiresAt victims t →
    WritesNew s frequency key hash value cost expiresAt ⟨true, victims.map reportOfVictim⟩ t

/-! ## The entry that is stored -/

theorem store_segment (hs : s.Accounted) (hget : s.entries[key]? = none) :
    ∃ segment, (s.store key hash value cost expiresAt).entries[key]? =
        some ⟨value, cost, hash, expiresAt, segment⟩ ∧
      (segment = .window ↔
        segmentCost .window ((s.store key hash value cost expiresAt).entries.erase key) + cost ≤
          s.placement.windowCapacity) := by
  have hothers : ∀ k : Key,
      ((s.store key hash value cost expiresAt).entries.erase key)[k]? = s.entries[k]? := by
    intro k
    rw [Map.get_erase]
    by_cases hk : key = k
    · subst hk
      rw [if_pos rfl, hget]
    · rw [if_neg hk, store, Map.get_insert, if_neg hk]
  have hwindow : segmentCost .window ((s.store key hash value cost expiresAt).entries.erase key) =
      s.placement.windowCost := by
    rw [segmentCost, Map.total_congr hothers]
    exact (hs.places.cost_eq .window).symm
  refine ⟨_, by rw [store, Map.get_insert, if_pos rfl], ?_⟩
  rw [hwindow, Placement.windowHasRoom]
  by_cases hroom : s.placement.windowCost + cost ≤ s.placement.windowCapacity <;> simp [hroom]

theorem get_store_of_ne {other : Key} (hne : other ≠ key) :
    (s.store key hash value cost expiresAt).entries[other]? = s.entries[other]? := by
  rw [store, Map.get_insert, if_neg (Ne.symm hne)]

/-! ## The three cases -/

theorem commits_store (hs : s.Accounted) (hget : s.entries[key]? = none)
    (hroom : s.used + cost ≤ s.capacity) :
    s.Commits key hash value cost expiresAt [] ((s.store key hash value cost expiresAt).record .set)
    where
  accounted := (hs.store hget hash value cost expiresAt).change (.record _ .set)
  not_victim := by simp
  gone := by simp
  kept other hne _ := get_store_of_ne hne
  stored := store_segment hs hget
  used_eq := rfl
  used_le := hroom

theorem commits_displace {victims : List Victim} (hs : s.Accounted)
    (hget : s.entries[key]? = none) (hless : s.capacity < s.used + cost)
    (hchosen : Chosen s.entries frequency hash (s.used + cost - s.capacity) victims) :
    s.Commits key hash value cost expiresAt victims
      (((removeAll .evicted (victims.map (·.key)) s).2.store key hash value cost
        expiresAt).record .set) := by
  have hchanges := changes_removeAll .evicted (victims.map (·.key)) s
  have hleft := hs.changes hchanges
  have hsettings := SameSettings.of_changes hchanges
  have hdrops := (drops_chosen hchosen).2
  have hfreed := used_removeAll_chosen hs hchosen
  have henough := hchosen.enough
  have hnot : ∀ v ∈ victims, v.key ≠ key := by
    intro v hv heq
    obtain ⟨entry, hentry, -⟩ := hchosen.resident v hv
    rw [heq, hget] at hentry
    exact absurd hentry (by simp)
  have hfree : (removeAll .evicted (victims.map (·.key)) s).2.entries[key]? = none := by
    rw [get_removeAll, hget, ite_self]
  refine ⟨(hleft.store hfree hash value cost expiresAt).change (.record _ .set), hnot, ?_, ?_, ?_,
    ?_, ?_⟩
  · intro v hv
    rw [entries_record, get_store_of_ne (hnot v hv), get_removeAll,
      if_pos (List.mem_map_of_mem hv)]
  · intro other hne hothers
    have hout : other ∉ victims.map (·.key) := by
      simpa [eq_comm] using hothers
    rw [entries_record, get_store_of_ne hne, get_removeAll, if_neg hout]
  · rw [← hsettings.windowCapacity]
    exact store_segment hleft hfree
  · rw [used_record, used_store]
    omega
  · rw [used_record, used_store]
    omega

theorem Commits.of_draws {placement : Placement} {victims : List Victim}
    (hdraws : Placement.AfterDraws s.placement placement)
    (h : Commits { s with placement } key hash value cost expiresAt victims t) :
    s.Commits key hash value cost expiresAt victims t := by
  obtain ⟨random, rfl⟩ := hdraws
  exact ⟨h.accounted, h.not_victim, h.gone, h.kept, h.stored, h.used_eq, h.used_le⟩

theorem writesNew_of_admits (hs : s.Accounted) (hget : s.entries[key]? = none)
    (h : s.Admits frequency key hash value cost expiresAt result t) :
    s.WritesNew frequency key hash value cost expiresAt result t := by
  cases h with
  | fits hroom => exact .room hroom (commits_store hs hget hroom)
  | refuse hless hdraws =>
    obtain ⟨random, rfl⟩ := hdraws
    exact .lost hless
  | @displace placement victims hless hdraws hchosen =>
    have hdrawn : Accounted { s with placement } := hs.change (.draw hdraws)
    have hremovals : (removeAll .evicted (victims.map (·.key)) { s with placement }).1 =
        victims.map reportOfVictim := (drops_chosen (s := { s with placement }) hchosen).1
    rw [hremovals]
    exact .won hless hchosen (.of_draws hdraws (commits_displace hdrawn hget hless hchosen))

/-! ## The whole write -/

/-- A write of a key that is absent or over, with a cost that the shard can hold and a time to
live, never fails. It drops an entry that is over, and then commits or leaves all as it is. -/
theorem new_key_commits_or_changes_nothing (hs : s.Accounted) (hvacant : s.Vacant key now)
    (hcost : cost ≤ s.capacity) (hlive : expiredAt expiresAt now = false) (frequency : UInt64 → Nat)
    (hash : UInt64) (value : ByteArray) :
    ∃ result t,
      s.set frequency key hash value cost expiresAt now =
        .ok (⟨result.admitted, (s.removeEntry key .expired).1.toList ++ result.removed⟩, t) ∧
      (∀ other : Key, (s.removeEntry key .expired).2.entries[other]? =
        if key = other then none else s.entries[other]?) ∧
      (s.removeEntry key .expired).2.WritesNew frequency key hash value cost expiresAt
        result t := by
  have hsets := s.set_sets frequency key hash value cost expiresAt now
  have hchanges := changes_removeEntry s key .expired
  have hget : (s.removeEntry key .expired).2.entries[key]? = none := by
    rw [get_removeEntry, if_pos rfl]
  generalize hanswer : s.set frequency key hash value cost expiresAt now = answer at hsets
  cases hsets with
  | tooLarge hlarge => omega
  | tooLate _ hlate =>
    rw [hlive] at hlate
    exact absurd hlate (by simp)
  | @new result t _ _ _ hadmits =>
    exact ⟨result, t, rfl, fun other => s.get_removeEntry key other .expired,
      writesNew_of_admits (hs.changes hchanges) hget hadmits⟩
  | live _ _ hentry hnot =>
    rw [hvacant _ hentry] at hnot
    exact absurd hnot (by simp)

/-- A key that is over is written again with twice its cost, and its neighbour may have to go. -/
theorem rewritten_after_expiry_commits_or_changes_nothing :
    let put (key : UInt8) (expiresAt : Option Instant) : ShardCall :=
      .set (fun _ => 0) [key] 0 ⟨#[]⟩ 1 expiresAt 0
    let s := (empty 2 (.empty 1 1 (.ofSeed 0))).after [put 97 (some 3), put 98 none]
    ∃ result t,
      s.set UInt64.toNat [97] 1 ⟨#[]⟩ 2 none 5 =
        .ok (⟨result.admitted, (s.removeEntry [97] .expired).1.toList ++ result.removed⟩, t) ∧
      (∀ other : Key, (s.removeEntry [97] .expired).2.entries[other]? =
        if [97] = other then none else s.entries[other]?) ∧
      (s.removeEntry [97] .expired).2.WritesNew UInt64.toNat [97] 1 ⟨#[]⟩ 2 none result t :=
  new_key_commits_or_changes_nothing ((accounted_empty 2 1 1 (.ofSeed 0)).after _) (by decide)
    (by decide) (by decide) UInt64.toNat 1 ⟨#[]⟩

end LfuCache.Shard
