import LfuCache.Config
import LfuCache.Decimal.Read
import LfuCache.Net.SocketAddress

/-!
# The configuration of a server

It is read from environment variables. A value that makes no sense is as good as none.
-/

namespace LfuCache

structure ServerConfig where
  listenAddress : String := "0.0.0.0:5050"
  /-- Seconds between two sweeps. -/
  cleanupInterval : Nat := 1
  cache : CacheConfig := {}
deriving DecidableEq

/-- The bytes of each variable that is set. -/
abbrev Environment := String → Option ByteArray

namespace Environment

/-- A variable that is not valid UTF-8 has no text. -/
def text? (env : Environment) (name : String) : Option String :=
  (env name).bind String.fromUTF8?

def read? {α : Type} (env : Environment) (read : String → Option α) (name : String) : Option α :=
  (env.text? name).bind read

/-- Whole numbers and seeds are words of 64 bits. -/
def word (env : Environment) (name : String) (default : Nat) : Nat :=
  (env.read? Decimal.readWord name).getD default

end Environment

namespace ServerConfig

def nanosecondsPerSecond : Nat := 1000000000

/-- Every variable that is read. -/
def variableNames : List String :=
  ["LISTEN_ADDRESS", "CLEANUP_INTERVAL", "TOTAL_CAPACITY", "SHARD_COUNT", "WINDOW_RATIO",
    "DEFAULT_TTL", "EVICTION_SAMPLE_SIZE", "EVENT_QUEUE_CAPACITY", "SKETCH_COUNTERS",
    "SKETCH_RESET_MULTIPLIER", "SAMPLE_SEED"]

/-- A default time to live of zero is none. -/
def ofEnvironment (env : Environment) : ServerConfig :=
  let defaults : CacheConfig := {}
  let ttl := env.word "DEFAULT_TTL" 0
  { listenAddress := (env.text? "LISTEN_ADDRESS").getD "0.0.0.0:5050"
    cleanupInterval := env.word "CLEANUP_INTERVAL" 1
    cache :=
      { totalCapacity := env.word "TOTAL_CAPACITY" defaults.totalCapacity
        shardCount := env.word "SHARD_COUNT" defaults.shardCount
        windowRatio := (env.read? Decimal.readDouble "WINDOW_RATIO").getD defaults.windowRatio
        defaultTtl := if 0 < ttl then some (ttl * nanosecondsPerSecond) else none
        sampleSize := env.word "EVICTION_SAMPLE_SIZE" defaults.sampleSize
        queueCapacity := env.word "EVENT_QUEUE_CAPACITY" defaults.queueCapacity
        sketchCounters := env.word "SKETCH_COUNTERS" defaults.sketchCounters
        resetMultiplier := env.word "SKETCH_RESET_MULTIPLIER" defaults.resetMultiplier
        sampleSeed := (env.read? Decimal.readWord "SAMPLE_SEED").map UInt64.ofNat } }

def socketAddress (c : ServerConfig) : Except ConfigError Net.SocketAddress :=
  match Net.SocketAddress.ofString? c.listenAddress with
  | some address => .ok address
  | none => .error (.listenAddress c.listenAddress)

/-- Checks the cache first, then the address. -/
def validate (c : ServerConfig) : Except ConfigError Unit := do
  c.cache.validate
  discard c.socketAddress

end ServerConfig

end LfuCache
