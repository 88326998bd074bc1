import Mathlib
import LfuCache.Proofs.Placement.History
import LfuCache.Proofs.Shard.WindowBudget

/-!
# The arrival numbers of a shard

A number is given once and never comes back, so a shard could run out of words for them. It
takes a call for each: only the entry that a write stores is given a number.
-/

namespace LfuCache.Shard

variable {s t : Shard} {frequency : UInt64 → Nat} {key : Key} {entry : Entry} {hash : UInt64}
  {value : ByteArray} {cost : Nat} {expiresAt : Option Instant} {result : SetResult}

/-! ## Changes that take no number -/

theorem nextArrival_promote (s : Shard) (key : Key) (cost : Nat) :
    (s.promote key cost).placement.nextArrival = s.placement.nextArrival := by
  rw [placement_promote]
  exact s.placement.nextArrival_promote key cost

theorem Easings.nextArrival_eq (h : Easings s t) :
    t.placement.nextArrival = s.placement.nextArrival := by
  induction h with
  | refl => rfl
  | tail _ heasing ih =>
    refine Eq.trans ?_ ih
    cases heasing with
    | record => rfl
    | draw hdraws =>
      obtain ⟨random, rfl⟩ := hdraws
      rfl
    | remove => exact Placement.nextArrival_remove _ _ _ _
    | promote => exact nextArrival_promote _ _ _
    | clear => rfl

theorem nextArrival_rewrite (s : Shard) (key : Key) (value : ByteArray) (cost : Nat)
    (expiresAt : Option Instant) :
    (s.rewrite key value cost expiresAt).placement.nextArrival = s.placement.nextArrival := by
  cases hget : s.entries[key]? with
  | none => simp only [rewrite, hget]
  | some entry =>
    have hrevise : (s.revise key entry value cost expiresAt).placement.nextArrival =
        s.placement.nextArrival := s.placement.nextArrival_adjustCost _ _ _
    rw [rewrite_of_get hget]
    split
    · exact (nextArrival_promote _ key cost).trans hrevise
    · exact hrevise

theorem nextArrival_overwrite (hget : s.entries[key]? = some entry) (frequency : UInt64 → Nat)
    (hash : UInt64) (value : ByteArray) (cost : Nat) (expiresAt : Option Instant) :
    (s.overwrite frequency key entry hash value cost expiresAt).2.placement.nextArrival =
      s.placement.nextArrival :=
  (easings_shrink key _ _).nextArrival_eq.trans
    ((nextArrival_rewrite _ key value cost expiresAt).trans
      (easings_touch hget hash).nextArrival_eq)

/-! ## Calls and runs -/

theorem nextArrival_store_le (s : Shard) (key : Key) (hash : UInt64) (value : ByteArray)
    (cost : Nat) (expiresAt : Option Instant) :
    (s.store key hash value cost expiresAt).placement.nextArrival ≤
      s.placement.nextArrival + 1 := by
  by_cases hroom : s.placement.windowHasRoom cost
  · simp [store, hroom, Placement.insert, Placement.pushWindow]
  · simp [store, hroom, Placement.insert, Placement.pushMain]

theorem nextArrival_le_of_admits
    (h : s.Admits frequency key hash value cost expiresAt result t) :
    t.placement.nextArrival ≤ s.placement.nextArrival + 1 := by
  cases h with
  | fits => exact s.nextArrival_store_le key hash value cost expiresAt
  | refuse _ hdraws =>
    have hdraw : Easings s _ := .single (.draw hdraws)
    exact hdraw.nextArrival_eq.le.trans (Nat.le_succ _)
  | @displace placement victims _ hdraws =>
    have hleft : Easings s _ := (Relation.ReflTransGen.single (.draw hdraws)).trans
      (easings_removeAll .evicted (victims.map (·.key)) _)
    rw [← hleft.nextArrival_eq]
    exact nextArrival_store_le _ key hash value cost expiresAt

theorem nextArrival_call_le (s : Shard) (call : ShardCall) :
    (s.call call).2.placement.nextArrival ≤ s.placement.nextArrival + 1 := by
  have heasings : ∀ t, Easings s t → t.placement.nextArrival ≤ s.placement.nextArrival + 1 :=
    fun t h => h.nextArrival_eq.le.trans (Nat.le_succ _)
  cases call with
  | get frequency key now => exact heasings _ (easings_get s frequency key now)
  | delete key now => exact heasings _ (easings_delete s key now)
  | clear => exact heasings _ (.single (.clear s))
  | removeExpired order now => exact heasings _ (easings_removeAll .expired _ s)
  | set frequency key hash value cost expiresAt now =>
    have hsets := s.set_sets frequency key hash value cost expiresAt now
    simp only [Shard.call]
    generalize s.set frequency key hash value cost expiresAt now = answer at hsets
    cases hsets with
    | tooLarge => exact heasings s .refl
    | tooLate =>
      exact heasings _ ((easings_removeEntry s key .expired).tail (.record _ .rejection))
    | new _ _ _ hadmits =>
      rw [← (easings_removeEntry s key .expired).nextArrival_eq]
      exact nextArrival_le_of_admits hadmits
    | live _ _ hget =>
      rw [nextArrival_overwrite hget]
      exact Nat.le_succ _

theorem nextArrival_after_le (s : Shard) (calls : List ShardCall) :
    (s.after calls).placement.nextArrival ≤ s.placement.nextArrival + calls.length := by
  induction calls generalizing s with
  | nil => exact Nat.le_refl _
  | cons call calls ih =>
    have hfirst := s.nextArrival_call_le call
    have hrest := ih (s.call call).2
    rw [after_cons, List.length_cons]
    omega

end LfuCache.Shard
