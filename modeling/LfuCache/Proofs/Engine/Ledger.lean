import Mathlib
import LfuCache.Proofs.Engine.Shards
import LfuCache.Proofs.Shard.Ledger

/-!
# The ledger of the cache

The numbers of a cache are those of its shards, added up. Each shard has a ledger of its own,
kept by the run that the calls of the cache make of it.
-/

namespace LfuCache.Engine

/-! ## Totals -/

/-- What all shards have of something, together. -/
def total (e : Engine) (amount : Shard → Nat) : Nat := (e.shards.toList.map amount).sum

theorem total_setShard (e : Engine) (amount : Shard → Nat) (hash : UInt64) (s : Shard) :
    (e.setShard hash s).total amount + amount (e.shardOf hash) = e.total amount + amount s := by
  have hlt : e.indexOf hash < e.shards.toList.length := by simpa using e.indexOf_lt hash
  have hself : e.shards.toList.set (e.indexOf hash) (e.shardOf hash) = e.shards.toList := by
    rw [shardOf, ← Array.getElem_toList, List.set_getElem_self]
  have hset : ∀ t, ((e.shards.toList.set (e.indexOf hash) t).map amount).sum =
      ((e.shards.toList.take (e.indexOf hash)).map amount).sum + amount t +
        ((e.shards.toList.drop (e.indexOf hash + 1)).map amount).sum := by
    intro t
    rw [List.set_eq_take_append_cons_drop, if_pos hlt]
    simp [Nat.add_assoc]
  have hbefore := hset (e.shardOf hash)
  have hafter := hset s
  rw [hself] at hbefore
  simp only [total, setShard, Array.toList_set]
  omega

theorem total_mapShards (e : Engine) (amount : Shard → Nat) (f : Shard → Shard) :
    (e.mapShards f).total amount = e.total fun s => amount (f s) := by
  simp [total, mapShards, Function.comp_def]

theorem total_congr {e f : Engine} {amount : Shard → Nat}
    (h : ∀ i : Nat, (f.shards[i]?).map amount = (e.shards[i]?).map amount) :
    f.total amount = e.total amount := by
  have hsame : f.shards.toList.map amount = e.shards.toList.map amount := by
    apply List.ext_getElem?
    intro i
    simpa using h i
  rw [total, total, hsame]

theorem size_eq_total (e : Engine) : e.size = e.total (·.size) := by
  rw [size, total, ← Array.foldl_toList, List.sum_eq_foldl, List.foldl_map]

theorem total_replaced {e : Engine} {hash : UInt64} {t : Shard} {outcomes : List Outcome}
    {entered paid : ℤ} {removals : List Removal}
    (h : (e.shardOf hash).Booked outcomes entered paid removals t) (events : List Event) :
    (∀ o, ((e.setShard hash t).publish events).total (·.counters.of o) =
        e.total (·.counters.of o) + outcomes.count o + (countedRemovals removals).count o) ∧
      (((e.setShard hash t).publish events).size : ℤ) = e.size + entered - removals.length := by
  constructor
  · intro o
    have htotal := e.total_setShard (·.counters.of o) hash t
    have hcounters := h.counters_eq o
    change (e.setShard hash t).total _ = _
    omega
  · have htotal := e.total_setShard (·.size) hash t
    have hsize := h.size_eq
    rw [size_eq_total, size_eq_total]
    change ((e.setShard hash t).total _ : ℤ) = _
    omega

theorem foldl_merge (shards : List Shard) (sum : Stats) :
    shards.foldl (fun sum s => sum.merge s.stats) sum =
      { hits := sum.hits + (shards.map (·.counters.hits)).sum
        misses := sum.misses + (shards.map (·.counters.misses)).sum
        sets := sum.sets + (shards.map (·.counters.sets)).sum
        rejections := sum.rejections + (shards.map (·.counters.rejections)).sum
        evictions := sum.evictions + (shards.map (·.counters.evictions)).sum
        expirations := sum.expirations + (shards.map (·.counters.expirations)).sum
        droppedEvents := sum.droppedEvents
        totalEntries := sum.totalEntries + (shards.map (·.size)).sum
        usedCost := sum.usedCost + (shards.map (·.used)).sum
        capacity := sum.capacity + (shards.map (·.capacity)).sum } := by
  induction shards generalizing sum with
  | nil => rfl
  | cons s shards ih =>
    rw [List.foldl_cons, ih]
    simp [Stats.merge, Shard.stats, Nat.add_assoc]

theorem stats_eq (e : Engine) : e.stats =
    { hits := e.total (·.counters.hits)
      misses := e.total (·.counters.misses)
      sets := e.total (·.counters.sets)
      rejections := e.total (·.counters.rejections)
      evictions := e.total (·.counters.evictions)
      expirations := e.total (·.counters.expirations)
      droppedEvents := e.feed.queue.dropped
      totalEntries := e.size
      usedCost := e.total (·.used)
      capacity := e.total (·.capacity) } := by
  rw [stats, ← Array.foldl_toList, foldl_merge, size_eq_total]
  simp [total]

theorem total_new {config : CacheConfig} {entropy : Nat → Generator} {new : Engine}
    (hnew : ofConfig config entropy = .ok new) {amount : Shard → Nat}
    (hzero : ∀ i, amount (newShard config entropy i) = 0) : new.total amount = 0 := by
  apply List.sum_eq_zero
  simp only [List.forall_mem_map]
  intro s hs
  obtain ⟨i, hi⟩ := List.mem_iff_getElem?.mp hs
  rw [Array.getElem?_toList] at hi
  rw [getElem?_new hnew hi, hzero]

/-! ## The capacity -/

theorem sum_shardCapacity (share rest count : Nat) :
    ((List.range count).map fun i => share + if i < rest then 1 else 0).sum =
      count * share + min rest count := by
  induction count with
  | zero => simp
  | succ count ih =>
    rw [List.range_succ, List.map_append, List.sum_append, ih, Nat.succ_mul]
    simp only [List.map_cons, List.map_nil, List.sum_singleton]
    split <;> omega

theorem sum_shares {config : CacheConfig} (hcount : 0 < config.shardCount) :
    ((List.range config.shardCount).map config.shardCapacity).sum = config.totalCapacity := by
  have hrest := Nat.mod_lt config.totalCapacity hcount
  unfold CacheConfig.shardCapacity
  rw [sum_shardCapacity, Nat.min_eq_left hrest.le, Nat.mul_comm, Nat.div_add_mod']

theorem total_capacity_of_shares {config : CacheConfig} {e : Engine}
    (hsize : e.shards.size = config.shardCount)
    (hcapacity : ∀ (i : Nat) (s : Shard), e.shards[i]? = some s →
      s.capacity = config.shardCapacity i)
    (hcount : 0 < config.shardCount) : e.total (·.capacity) = config.totalCapacity := by
  have hshares : e.shards.toList.map (·.capacity) =
      (List.range config.shardCount).map config.shardCapacity := by
    apply List.ext_getElem
    · simp [hsize]
    · intro i hi _
      simp only [List.getElem_map, List.getElem_range]
      exact hcapacity i _ (by simp)
  rw [total, hshares, sum_shares hcount]

theorem total_capacity {config : CacheConfig} {e : Engine} (h : e.Sound config)
    (hcount : 0 < config.shardCount) : e.total (·.capacity) = config.totalCapacity :=
  total_capacity_of_shares h.size_eq (fun i s hs => (h.shard i s hs).capacity_eq) hcount

/-! ## The books -/

theorem balanced_shard {config : CacheConfig} {entropy : Nat → Generator} {new : Engine}
    (hnew : ofConfig config entropy = .ok new) (calls : List EngineCall) {i : Nat} {s : Shard}
    (hs : (new.after calls).shards[i]? = some s) :
    s.Balanced ((newShard config entropy i).visits (new.askedIn i calls)) := by
  rw [getElem?_after_new hnew calls hs]
  exact Shard.balanced_after _ _ _ _ _

/-- After any run of a new cache, the ledgers of its shards are balanced, and its numbers are
the sums of theirs. -/
structure AddsUp (config : CacheConfig) (entropy : Nat → Generator) (new : Engine) : Prop where
  shard : ∀ calls (i : Nat) (s : Shard), (new.after calls).shards[i]? = some s →
    s.Balanced ((newShard config entropy i).visits (new.askedIn i calls))
  stats : ∀ calls, (new.after calls).stats =
    { hits := (new.after calls).total (·.counters.hits)
      misses := (new.after calls).total (·.counters.misses)
      sets := (new.after calls).total (·.counters.sets)
      rejections := (new.after calls).total (·.counters.rejections)
      evictions := (new.after calls).total (·.counters.evictions)
      expirations := (new.after calls).total (·.counters.expirations)
      droppedEvents := (new.after calls).feed.queue.dropped
      totalEntries := (new.after calls).size
      usedCost := (new.after calls).total (·.used)
      capacity := config.totalCapacity }

/-- Any run of a new shard leaves a balanced ledger, and so does any run of a cache in each of
its shards. -/
theorem ledgers_balance_and_add_up :
    (∀ capacity windowCapacity sampleSize random calls,
      let new := Shard.empty capacity (.empty windowCapacity sampleSize random)
      (new.after calls).Balanced (new.visits calls)) ∧
    ∀ config entropy, config.validate = .ok () →
      ∃ new, ofConfig config entropy = .ok new ∧ AddsUp config entropy new := by
  refine ⟨Shard.balanced_after, ?_⟩
  intro config entropy hvalid
  obtain ⟨new, hnew, hsound, -⟩ := ofConfig_sound entropy hvalid
  refine ⟨new, hnew, fun calls i s hs => balanced_shard hnew calls hs, fun calls => ?_⟩
  rw [stats_eq, total_capacity (hsound.after calls) (shardCount_pos hvalid)]

theorem default_config_adds_up :
    ({} : CacheConfig).validate = .ok () ∧
      ∃ new, ofConfig {} (fun _ => .ofSeed 0) = .ok new ∧ AddsUp {} (fun _ => .ofSeed 0) new :=
  ⟨by decide, ledgers_balance_and_add_up.2 {} (fun _ => .ofSeed 0) (by decide)⟩

end LfuCache.Engine
