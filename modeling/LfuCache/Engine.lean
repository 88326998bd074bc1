import LfuCache.Config
import LfuCache.Feed
import LfuCache.Hash.Folded

/-!
# The cache

A key belongs to one shard, and its hash says which. An operation changes that shard and
publishes what happened. The sketch learns of it when the worker gets there.
-/

namespace LfuCache

/-- The hash that routes keys. Its seed never changes, so a key always has the same shard. -/
def routingKeys : FoldedHash.Keys :=
  .ofSeeds 0x243F6A8885A308D3 0x13198A2E03707344 0xA4093822299F31D0 0x082EFA98EC4E6C89

def keyHash (key : Key) : UInt64 := FoldedHash.hash routingKeys key

structure Engine where
  config : CacheConfig
  shards : Array Shard
  shards_pos : 0 < shards.size
  feed : Feed

namespace Engine

/-! ## A new engine -/

/-- Shard `index` draws from a seed of its own, or from `entropy` if no seed is set. -/
def shardGenerator (config : CacheConfig) (entropy : Nat → Generator) (index : Nat) : Generator :=
  match config.sampleSeed with
  | some seed => .ofSeed (seed + UInt64.ofNat index)
  | none => entropy index

def newShard (config : CacheConfig) (entropy : Nat → Generator) (index : Nat) : Shard :=
  let capacity := config.shardCapacity index
  .empty capacity (.empty (Placement.windowBudget capacity config.windowRatio) config.sampleSize
    (shardGenerator config entropy index))

/-- Builds the shards and starts the worker. A valid configuration has a shard. -/
def ofConfig (config : CacheConfig) (entropy : Nat → Generator) : Except CacheError Engine :=
  match config.validate with
  | .error e => .error (.config e)
  | .ok () =>
    if h : 0 < config.shardCount then
      .ok {
        config
        shards := Array.ofFn fun i : Fin config.shardCount => newShard config entropy i.val
        shards_pos := by simpa using h
        feed := (Feed.empty config.queueCapacity
          (.empty config.sketchCounters config.resetMultiplier)).start }
    else .error (.config .zeroShards)

/-! ## Routing -/

def indexOf (e : Engine) (hash : UInt64) : Nat := hash.toNat % e.shards.size

theorem indexOf_lt (e : Engine) (hash : UInt64) : e.indexOf hash < e.shards.size :=
  Nat.mod_lt _ e.shards_pos

def shardOf (e : Engine) (hash : UInt64) : Shard :=
  have := e.indexOf_lt hash
  e.shards[e.indexOf hash]

def setShard (e : Engine) (hash : UInt64) (shard : Shard) : Engine :=
  { e with
    shards := e.shards.set (e.indexOf hash) shard (e.indexOf_lt hash)
    shards_pos := by simpa using e.shards_pos }

def publish (e : Engine) (events : List Event) : Engine :=
  { e with feed := e.feed.pushAll events }

def frequencyOf (e : Engine) (hash : UInt64) : Nat := e.feed.sketch.estimate hash

def checkKey (key : Key) : Except CacheError Unit :=
  if key.isEmpty then .error (.invalidKey "key cannot be empty") else .ok ()

/-! ## Operations on a key -/

def get (e : Engine) (key : Key) (now : Instant) :
    Except CacheError (Option ByteArray × Engine) := do
  checkKey key
  let hash := keyHash key
  let (lookup, shard) := (e.shardOf hash).get e.frequencyOf key now
  let events := .access hash :: (lookup.expired.map Event.removal).toList
  return (lookup.value, (e.setShard hash shard).publish events)

/-- Without a cost, or with a cost of zero, an entry costs as much as it has bytes. -/
def effectiveCost (key : Key) (value : ByteArray) (cost : Option Nat) : Nat :=
  match cost with
  | some (c + 1) => c + 1
  | _ => key.length + value.size

/-- Says if the value was stored. -/
def set (e : Engine) (key : Key) (value : ByteArray) (cost : Option Nat) (ttl : Option Duration)
    (now : Instant) : Except CacheError (Bool × Engine) := do
  checkKey key
  let hash := keyHash key
  let expiresAt := expiryAfter (ttl.or e.config.defaultTtl) now
  let (result, shard) ← (e.shardOf hash).set e.frequencyOf key hash value
    (effectiveCost key value cost) expiresAt now
  let events := .access hash :: result.removed.map .removal
  return (result.admitted, (e.setShard hash shard).publish events)

/-- Says if there was a live entry. -/
def delete (e : Engine) (key : Key) (now : Instant) : Except CacheError (Bool × Engine) := do
  checkKey key
  let hash := keyHash key
  let (removal, shard) := (e.shardOf hash).delete key now
  let events := (removal.map Event.removal).toList
  return (removal.any (·.cause = .deleted), (e.setShard hash shard).publish events)

/-! ## Operations on all shards -/

def mapShards (e : Engine) (f : Shard → Shard) : Engine :=
  { e with shards := e.shards.map f, shards_pos := by simpa using e.shards_pos }

def clear (e : Engine) : Engine :=
  e.mapShards fun shard => shard.clear.2

/-- Drops what has expired, one shard after the other. Says how much it was. -/
def cleanup (e : Engine) (now : Instant) : Nat × Engine :=
  let removals := e.shards.toList.flatMap fun shard => (shard.removeExpired now).1
  (removals.length,
    (e.mapShards fun shard => (shard.removeExpired now).2).publish (removals.map .removal))

/-! ## Views -/

def stats (e : Engine) : Stats :=
  { e.shards.foldl (fun (sum : Stats) shard => sum.merge shard.stats) {} with
    droppedEvents := e.feed.queue.dropped }

def size (e : Engine) : Nat := e.shards.foldl (fun total s => total + s.size) 0

def shardCount (e : Engine) : Nat := e.shards.size

def shardCapacity? (e : Engine) (index : Nat) : Option Nat :=
  if index < e.shards.size then some (e.config.shardCapacity index) else none

/-- Capacity and cost held. -/
def shardUsage? (e : Engine) (index : Nat) : Option (Nat × Nat) :=
  (e.shards[index]?).map fun shard => (shard.capacity, shard.used)

def shardIndex (e : Engine) (key : Key) : Nat := e.indexOf (keyHash key)

def frequency (e : Engine) (key : Key) : Nat := e.frequencyOf (keyHash key)

/-! ## The worker -/

/-- Waits until the sketch knows all that was published. -/
def wait (e : Engine) : Engine := { e with feed := e.feed.wait }

/-- From now on nothing is published, and the sketch stays as it is. -/
def shutdown (e : Engine) : Engine := { e with feed := e.feed.close.shutdown.2 }

end Engine

end LfuCache
