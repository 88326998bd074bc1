import LfuCache.Decimal.Layout

/-!
# What can go wrong

Each error is a cause. The words for it are in one function. A write that is not admitted
is no error.
-/

namespace LfuCache

/-- The largest total capacity. Two costs below it add up to a 64-bit word. -/
def maxTotalCapacity : Nat := 0x7FFFFFFFFFFFFFFF

/-! ## Configurations -/

/-- Why a configuration is refused. -/
inductive ConfigError where
  | zeroCapacity
  | capacityTooLarge (capacity : Nat)
  | zeroShards
  | capacityBelowShards (capacity shards : Nat)
  | windowRatio (ratio : Double)
  | zeroSampleSize
  | zeroQueueCapacity
  | zeroSketchCounters
  | zeroResetMultiplier
  | listenAddress (text : String)
deriving DecidableEq

/-- A ratio in a message has no exponent, and no point if it is whole. -/
def ratioLayout : Decimal.Layout where
  isPlain _ := true
  pointZero := false
  tie := .upper

def ConfigError.message : ConfigError → String
  | .zeroCapacity => "total capacity must be greater than zero"
  | .capacityTooLarge capacity =>
    s!"total capacity {capacity} exceeds the maximum of {maxTotalCapacity}"
  | .zeroShards => "shard count must be greater than zero"
  | .capacityBelowShards capacity shards =>
    s!"total capacity {capacity} is smaller than shard count {shards}"
  | .windowRatio ratio =>
    "window ratio must be strictly between 0 and 1, got " ++ ratioLayout.render ratio
  | .zeroSampleSize => "eviction sample size must be greater than zero"
  | .zeroQueueCapacity => "event queue capacity must be greater than zero"
  | .zeroSketchCounters => "sketch counters must be greater than zero"
  | .zeroResetMultiplier => "sketch reset multiplier must be greater than zero"
  | .listenAddress text => "invalid listen address: " ++ text

/-! ## The cache -/

inductive CacheError where
  | invalidKey (reason : String)
  /-- The cost is above the capacity of the shard. -/
  | valueTooLarge (cost capacity : Nat)
  | notFound (key : String)
  | config (error : ConfigError)
  | internal (reason : String)
deriving DecidableEq

def CacheError.message : CacheError → String
  | .invalidKey reason => "Invalid key: " ++ reason
  | .valueTooLarge cost capacity =>
    s!"Value too large: cost {cost} exceeds shard capacity {capacity}"
  | .notFound key => "Key not found: " ++ key
  | .config error => error.message
  | .internal reason => "Internal error: " ++ reason

end LfuCache
