import Mathlib
import LfuCache.Proofs.Engine.Ledger

/-!
# The shares of the shards

The total capacity is split evenly. The shares add up to it, no two of them differ by more than
one unit, and the shards with one unit more come first. A shard has its share from the start, and
no call ever changes it.
-/

namespace LfuCache

/-! ## Shares -/

namespace CacheConfig

variable {config : CacheConfig}

theorem shardCapacity_antitone (config : CacheConfig) : Antitone config.shardCapacity := by
  intro i j hij
  unfold shardCapacity
  split <;> split <;> omega

theorem shardCapacity_le_succ (config : CacheConfig) (i j : Nat) :
    config.shardCapacity i ≤ config.shardCapacity j + 1 := by
  unfold shardCapacity
  split <;> split <;> omega

theorem shardCapacity_pos (hvalid : config.validate = .ok ()) (i : Nat) :
    1 ≤ config.shardCapacity i := by
  obtain ⟨-, hcount, hunits⟩ := Engine.counts_of_valid hvalid
  have hshare : 1 ≤ config.totalCapacity / config.shardCount := Nat.div_pos hunits hcount
  exact Nat.le_add_right_of_le hshare

/-- The shares add up to the total, those that come first are the larger ones, and they are as
even as whole units can be. -/
structure SplitsEvenly (config : CacheConfig) : Prop where
  sum_eq : ((List.range config.shardCount).map config.shardCapacity).sum = config.totalCapacity
  antitone : ∀ i j, i ≤ j → config.shardCapacity j ≤ config.shardCapacity i
  differ_le : ∀ i j, config.shardCapacity i ≤ config.shardCapacity j + 1
  pos : ∀ i, 1 ≤ config.shardCapacity i

theorem splitsEvenly (hvalid : config.validate = .ok ()) : config.SplitsEvenly where
  sum_eq := Engine.sum_shares (Engine.shardCount_pos hvalid)
  antitone _ _ hij := config.shardCapacity_antitone hij
  differ_le := config.shardCapacity_le_succ
  pos := shardCapacity_pos hvalid

end CacheConfig

theorem Placement.windowBudget_mem (ratio : Double) {capacity : Nat} (h : 1 ≤ capacity) :
    1 ≤ windowBudget capacity ratio ∧ windowBudget capacity ratio ≤ capacity := by
  unfold windowBudget
  omega

namespace Engine

variable {config : CacheConfig} {entropy : Nat → Generator} {new : Engine} {i : Nat} {s : Shard}

/-! ## Shards -/

theorem sameSettings_after_new (hnew : ofConfig config entropy = .ok new)
    (calls : List EngineCall) (hs : (new.after calls).shards[i]? = some s) :
    Shard.SameSettings (newShard config entropy i) s := by
  rw [getElem?_after_new hnew calls hs]
  exact Shard.sameSettings_after _ _

/-- Each shard has its share, a part of it for the window, and all of them have the total. -/
structure HasShares (config : CacheConfig) (e : Engine) : Prop where
  size_eq : e.shards.size = config.shardCount
  capacity_eq : ∀ (i : Nat) (s : Shard), e.shards[i]? = some s →
    s.capacity = config.shardCapacity i
  window : ∀ (i : Nat) (s : Shard), e.shards[i]? = some s →
    1 ≤ s.placement.windowCapacity ∧ s.placement.windowCapacity ≤ s.capacity
  shown : ∀ i, i < config.shardCount →
    e.shardCapacity? i = some (config.shardCapacity i) ∧
      (e.shardUsage? i).map (·.1) = some (config.shardCapacity i)
  total : e.stats.capacity = config.totalCapacity

theorem hasShares_after_new (hvalid : config.validate = .ok ())
    (hnew : ofConfig config entropy = .ok new) (hsound : new.Sound config)
    (calls : List EngineCall) : HasShares config (new.after calls) := by
  have hafter : (new.after calls).Sound config := hsound.after calls
  have hcapacity : ∀ (i : Nat) (s : Shard), (new.after calls).shards[i]? = some s →
      s.capacity = config.shardCapacity i := fun i s hs => (hafter.shard i s hs).capacity_eq
  refine ⟨hafter.size_eq, hcapacity, fun i s hs => ?_, fun i hi => ?_, ?_⟩
  · have hwindow := (sameSettings_after_new hnew calls hs).windowCapacity
    rw [hcapacity i s hs, hwindow]
    exact Placement.windowBudget_mem config.windowRatio (CacheConfig.shardCapacity_pos hvalid i)
  · have hlt : i < (new.after calls).shards.size := hafter.size_eq ▸ hi
    have hs := Array.getElem?_eq_getElem hlt
    refine ⟨?_, ?_⟩
    · rw [shardCapacity?, if_pos hlt, hafter.config_eq]
    · rw [shardUsage?, hs, Option.map_some, Option.map_some, hcapacity i _ hs]
  · rw [stats_eq]
    exact total_capacity hafter (shardCount_pos hvalid)

/-- A valid configuration splits its capacity evenly. Every cache that is built from it gives
each shard its share, and that stays so in every run. -/
theorem capacity_split_among_shards (hvalid : config.validate = .ok ()) :
    config.SplitsEvenly ∧ ∀ entropy, ∃ new, ofConfig config entropy = .ok new ∧
      ∀ calls, HasShares config (new.after calls) := by
  refine ⟨CacheConfig.splitsEvenly hvalid, fun entropy => ?_⟩
  obtain ⟨new, hnew, hsound, -⟩ := ofConfig_sound entropy hvalid
  exact ⟨new, hnew, hasShares_after_new hvalid hnew hsound⟩

/-- The largest total is no multiple of ten: seven shards have one unit more than the others. -/
theorem largest_capacity_split_among_ten_shards :
    let config : CacheConfig := { totalCapacity := maxTotalCapacity, shardCount := 10 }
    config.validate = .ok () ∧
      (config.shardCapacity 6, config.shardCapacity 7) =
        (922337203685477581, 922337203685477580) ∧
      config.SplitsEvenly ∧ ∃ new, ofConfig config (fun _ => .ofSeed 0) = .ok new ∧
        ∀ calls, HasShares config (new.after calls) := by
  intro config
  have hvalid : config.validate = .ok () := by decide
  obtain ⟨hsplits, hbuilt⟩ := capacity_split_among_shards hvalid
  exact ⟨hvalid, by decide, hsplits, hbuilt fun _ => .ofSeed 0⟩

end Engine

end LfuCache
