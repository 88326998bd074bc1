import Mathlib
import LfuCache.Proofs.Engine.Ledger
import LfuCache.Proofs.Shard.Arrivals
import LfuCache.Proofs.Shard.Words

/-!
# Sums over all shards in words

The shards share the capacity that is configured, and none holds more than its part. So what they
hold and their capacities never add up to more than that, from the first shard to the last. Nor
does a shard run out of arrival numbers before the calls themselves can no longer be counted.
-/

namespace LfuCache

open Word

/-! ## Sums of numbers -/

/-- The sum, if the costs in it are words. -/
def Stats.merge? (a b : Stats) : Option Stats := do
  let usedCost ← add? a.usedCost b.usedCost
  let capacity ← add? a.capacity b.capacity
  return { a.merge b with usedCost, capacity }

theorem Stats.merge?_eq {a b : Stats} (hused : a.usedCost + b.usedCost < UInt64.size)
    (hcapacity : a.capacity + b.capacity < UInt64.size) : a.merge? b = some (a.merge b) := by
  simp only [merge?, add?_of_lt hused, add?_of_lt hcapacity]
  rfl

namespace Engine

variable {e : Engine}

def stats? (e : Engine) : Option Stats := do
  let sum ← e.shards.toList.foldlM (fun (sum : Stats) shard => sum.merge? shard.stats) {}
  return { sum with droppedEvents := e.feed.queue.dropped }

theorem foldlM_merge? {shards : List Shard} {sum : Stats}
    (hused : sum.usedCost + (shards.map (·.used)).sum < UInt64.size)
    (hcapacity : sum.capacity + (shards.map (·.capacity)).sum < UInt64.size) :
    shards.foldlM (fun sum s => sum.merge? s.stats) sum =
      some (shards.foldl (fun sum s => sum.merge s.stats) sum) := by
  induction shards generalizing sum with
  | nil => rfl
  | cons s shards ih =>
    rw [List.map_cons, List.sum_cons, ← Nat.add_assoc] at hused hcapacity
    have hfirst : sum.merge? s.stats = some (sum.merge s.stats) :=
      Stats.merge?_eq (Nat.lt_of_le_of_lt (Nat.le_add_right _ _) hused)
        (Nat.lt_of_le_of_lt (Nat.le_add_right _ _) hcapacity)
    rw [List.foldlM_cons, hfirst, List.foldl_cons]
    exact ih hused hcapacity

theorem stats?_eq (hused : e.total (·.used) < UInt64.size)
    (hcapacity : e.total (·.capacity) < UInt64.size) : e.stats? = some e.stats := by
  have hfold : e.shards.toList.foldlM (fun (sum : Stats) s => sum.merge? s.stats) {} =
      some (e.shards.toList.foldl (fun sum s => sum.merge s.stats) {}) :=
    foldlM_merge? ((Nat.zero_add _).trans_lt hused) ((Nat.zero_add _).trans_lt hcapacity)
  rw [stats?, hfold, stats, ← Array.foldl_toList]
  rfl

/-- The numbers of the first shards, as they stand when the next one is to be added. -/
def statsOfFirst (e : Engine) (n : Nat) : Stats :=
  (e.shards.toList.take n).foldl (fun sum s => sum.merge s.stats) {}

theorem statsOfFirst_le (e : Engine) (n : Nat) :
    (e.statsOfFirst n).usedCost ≤ e.total (·.used) ∧
      (e.statsOfFirst n).capacity ≤ e.total (·.capacity) := by
  have hpart : ∀ amount : Shard → Nat,
      ((e.shards.toList.take n).map amount).sum ≤ e.total amount := by
    intro amount
    have hsplit := List.sum_take_add_sum_drop (e.shards.toList.map amount) n
    rw [total, List.map_take]
    omega
  rw [statsOfFirst, foldl_merge]
  simp only [Nat.zero_add]
  exact ⟨hpart _, hpart _⟩

/-! ## Shares -/

/-- The shards share the capacity that is configured, and none holds more than its part. -/
structure WithinShares (e : Engine) : Prop where
  size_eq : e.shards.size = e.config.shardCount
  capacity_eq : ∀ (i : Nat) (s : Shard), e.shards[i]? = some s →
    s.capacity = e.config.shardCapacity i
  used_le : ∀ (i : Nat) (s : Shard), e.shards[i]? = some s → s.used ≤ s.capacity

theorem WithinShares.total_used_le (h : e.WithinShares) :
    e.total (·.used) ≤ e.total (·.capacity) := by
  apply List.sum_le_sum
  intro s hs
  obtain ⟨i, hi⟩ := List.mem_iff_getElem?.mp hs
  rw [Array.getElem?_toList] at hi
  exact h.used_le i s hi

theorem withinShares_new {config : CacheConfig} {entropy : Nat → Generator}
    (hvalid : config.validate = .ok ()) {new : Engine} (hnew : ofConfig config entropy = .ok new) :
    new.WithinShares := by
  obtain ⟨e, he, hsound, -⟩ := ofConfig_sound entropy hvalid
  obtain rfl : e = new := Except.ok.inj (he.symm.trans hnew)
  rw [← hsound.config_eq] at hsound
  refine ⟨hsound.size_eq, fun i s hs => (hsound.shard i s hs).capacity_eq, fun i s hs => ?_⟩
  rw [getElem?_new hnew hs]
  exact Nat.zero_le _

/-! ## Arrival numbers -/

theorem arrivals_are_words {config : CacheConfig} {entropy : Nat → Generator} {new : Engine}
    (hnew : ofConfig config entropy = .ok new) {calls : List EngineCall}
    (hcalls : calls.length < UInt64.size) {i : Nat} {s : Shard}
    (hs : (new.after calls).shards[i]? = some s) : s.placement.nextArrival < UInt64.size := by
  have hle := (newShard config entropy i).nextArrival_after_le (new.askedIn i calls)
  have hasked := new.length_askedIn_le i calls
  have hfirst : (newShard config entropy i).placement.nextArrival = 0 := rfl
  rw [getElem?_after_new hnew calls hs]
  omega

/-! ## All costs -/

/-- No call of a shard within an allowed capacity counts a cost that is no word, and no
difference of costs in it is negative. The sums over the shards of a valid configuration are
words too, and never more than the total capacity. -/
theorem costs_are_words :
    (∀ s : Shard, s.Accounted → s.used ≤ s.capacity → s.capacity ≤ maxTotalCapacity →
      ∀ call, s.call? call = some (s.call call)) ∧
    ∀ e : Engine, e.config.validate = .ok () → e.WithinShares →
      e.stats? = some e.stats ∧
        ∀ n, (e.statsOfFirst n).usedCost ≤ e.config.totalCapacity ∧
          (e.statsOfFirst n).capacity ≤ e.config.totalCapacity := by
  have hmax : maxTotalCapacity + maxTotalCapacity < UInt64.size := by decide
  refine ⟨fun s hs hused hcapacity call => Shard.call?_eq hs (by omega) call, ?_⟩
  intro e hvalid hshares
  obtain ⟨hallowed, hcount, -⟩ := counts_of_valid hvalid
  have htotal := total_capacity_of_shares hshares.size_eq hshares.capacity_eq hcount
  have hused := hshares.total_used_le
  refine ⟨stats?_eq (by omega) (by omega), fun n => ?_⟩
  obtain ⟨hfirstUsed, hfirstCapacity⟩ := e.statsOfFirst_le n
  omega

/-- The largest shard that is allowed is full, and one of its two keys gets all of the capacity.
A new cache counts in words too. -/
theorem costs_are_words_in_largest_shard :
    let put (key : UInt8) (cost : Nat) : ShardCall := .set (fun _ => 0) [key] 0 ⟨#[]⟩ cost none 0
    let s := (Shard.empty maxTotalCapacity (.empty 1 1 (.ofSeed 0))).after
      [put 97 1, put 98 (maxTotalCapacity - 1)]
    s.used = maxTotalCapacity ∧
      s.call? (put 97 maxTotalCapacity) = some (s.call (put 97 maxTotalCapacity)) ∧
      ∃ new, ofConfig {} (fun _ => .ofSeed 0) = .ok new ∧ new.stats? = some new.stats ∧
        ∀ n, (new.statsOfFirst n).usedCost ≤ 1048576 ∧
          (new.statsOfFirst n).capacity ≤ 1048576 := by
  intro put s
  have hs : s.Accounted := (Shard.accounted_empty maxTotalCapacity 1 1 (.ofSeed 0)).after _
  have hvalid : ({} : CacheConfig).validate = .ok () := by decide
  obtain ⟨hshard, hengine⟩ := costs_are_words
  obtain ⟨new, hnew, hsound, -⟩ := ofConfig_sound (fun _ => .ofSeed 0) hvalid
  have hconfig := hengine new (by rw [hsound.config_eq]; exact hvalid) (withinShares_new hvalid hnew)
  rw [hsound.config_eq] at hconfig
  exact ⟨by decide +kernel, hshard s hs (by decide +kernel) (by decide +kernel) _, new, hnew, hconfig⟩

end Engine

end LfuCache
