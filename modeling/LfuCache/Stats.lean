import LfuCache.Decimal.Double

/-!
# Counters

A shard counts what happens to it. The counters of all shards add up to those of the cache.
-/

namespace LfuCache

/-- Something that is counted. -/
inductive Outcome where
  | hit
  | miss
  /-- A write that was stored. -/
  | set
  /-- A write that was not. -/
  | rejection
  /-- An entry that made room for another. -/
  | eviction
  /-- An entry that went because its time was over. -/
  | expiration
deriving DecidableEq, Repr

structure Counters where
  hits : Nat := 0
  misses : Nat := 0
  sets : Nat := 0
  rejections : Nat := 0
  evictions : Nat := 0
  expirations : Nat := 0
deriving DecidableEq, Repr

def Counters.record (c : Counters) : Outcome → Counters
  | .hit => { c with hits := c.hits + 1 }
  | .miss => { c with misses := c.misses + 1 }
  | .set => { c with sets := c.sets + 1 }
  | .rejection => { c with rejections := c.rejections + 1 }
  | .eviction => { c with evictions := c.evictions + 1 }
  | .expiration => { c with expirations := c.expirations + 1 }

/-- The counters, with what the cache holds now. -/
structure Stats extends Counters where
  /-- Events lost to a full queue. -/
  droppedEvents : Nat := 0
  totalEntries : Nat := 0
  usedCost : Nat := 0
  capacity : Nat := 0
deriving DecidableEq, Repr

namespace Stats

def record (s : Stats) (outcome : Outcome) : Stats :=
  { s with toCounters := s.toCounters.record outcome }

def merge (a b : Stats) : Stats where
  hits := a.hits + b.hits
  misses := a.misses + b.misses
  sets := a.sets + b.sets
  rejections := a.rejections + b.rejections
  evictions := a.evictions + b.evictions
  expirations := a.expirations + b.expirations
  droppedEvents := a.droppedEvents + b.droppedEvents
  totalEntries := a.totalEntries + b.totalEntries
  usedCost := a.usedCost + b.usedCost
  capacity := a.capacity + b.capacity

/-- Hits over hits and misses, or zero if nothing was asked for. -/
def hitRate (s : Stats) : Double :=
  let total := s.hits + s.misses
  if total = 0 then ⟨0⟩
  else .ofFloat ((UInt64.ofNat s.hits).toFloat / (UInt64.ofNat total).toFloat)

end Stats

end LfuCache
