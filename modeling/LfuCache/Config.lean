import LfuCache.Entry
import LfuCache.Error

/-!
# The configuration of a cache

It is checked once, and never changes after that.
-/

namespace LfuCache

structure CacheConfig where
  /-- Cost units of the whole cache. -/
  totalCapacity : Nat := 1048576
  shardCount : Nat := 16
  /-- The part of each shard that is its window. One hundredth by default. -/
  windowRatio : Double := ⟨0x3F847AE147AE147B⟩
  /-- For writes that name no time to live. -/
  defaultTtl : Option Duration := none
  /-- Main entries that are compared in a round of admission. -/
  sampleSize : Nat := 5
  queueCapacity : Nat := 4096
  /-- The wanted width of the sketch, in words. -/
  sketchCounters : Nat := 65536
  resetMultiplier : Nat := 10
  /-- Without a seed, samples are drawn at random. -/
  sampleSeed : Option UInt64 := none
deriving DecidableEq

namespace CacheConfig

/-- Reports the first problem. -/
def validate (c : CacheConfig) : Except ConfigError Unit := do
  if c.totalCapacity = 0 then throw .zeroCapacity
  if maxTotalCapacity < c.totalCapacity then throw (.capacityTooLarge c.totalCapacity)
  if c.shardCount = 0 then throw .zeroShards
  if c.totalCapacity < c.shardCount then
    throw (.capacityBelowShards c.totalCapacity c.shardCount)
  if !c.windowRatio.isFraction then throw (.windowRatio c.windowRatio)
  if c.sampleSize = 0 then throw .zeroSampleSize
  if c.queueCapacity = 0 then throw .zeroQueueCapacity
  if c.sketchCounters = 0 then throw .zeroSketchCounters
  if c.resetMultiplier = 0 then throw .zeroResetMultiplier

/-- The shards share the capacity. What is left over goes to the first ones, one unit each. -/
def shardCapacity (c : CacheConfig) (index : Nat) : Nat :=
  c.totalCapacity / c.shardCount + if index < c.totalCapacity % c.shardCount then 1 else 0

end CacheConfig

end LfuCache
