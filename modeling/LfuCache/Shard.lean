import Std.Data.TreeMap
import LfuCache.Admission
import LfuCache.Error
import LfuCache.Placement
import LfuCache.Stats

/-!
# One shard

A shard holds entries up to a cost budget. It places each of them in the window or in main,
asks for admission when there is no room, and drops what has expired when it comes across
it. How often a key is used is not its business: every operation is given the frequencies.
-/

namespace LfuCache

/-! ## What operations report -/

/-- Why an entry left. -/
inductive RemovalCause where
  | deleted
  /-- It made room for another. -/
  | evicted
  /-- Its time was over. -/
  | expired
deriving DecidableEq, Repr

structure Removal where
  hash : UInt64
  cost : Nat
  cause : RemovalCause
deriving DecidableEq, Repr

structure Lookup where
  /-- The value, if the key is there and has not expired. -/
  value : Option ByteArray
  /-- The expired entry that the lookup has dropped. -/
  expired : Option Removal

structure SetResult where
  /-- The entry is now in the shard. -/
  admitted : Bool
  /-- What left, in order. -/
  removed : List Removal
deriving DecidableEq

structure Shard where
  entries : Std.TreeMap Key Entry
  placement : Placement
  capacity : Nat
  /-- The cost of all entries. -/
  used : Nat
  counters : Counters

namespace Shard

def empty (capacity : Nat) (placement : Placement) : Shard where
  entries := ∅
  placement
  capacity
  used := 0
  counters := {}

/-! ## Views -/

def size (s : Shard) : Nat := s.entries.size

def isEmpty (s : Shard) : Bool := s.entries.isEmpty

/-- The segment of a resident key. -/
def segment? (s : Shard) (key : Key) : Option Segment :=
  (s.entries[key]?).map (·.segment)

def stats (s : Shard) : Stats :=
  { s.counters with totalEntries := s.size, usedCost := s.used, capacity := s.capacity }

/-! ## Steps that the operations share -/

def record (s : Shard) (outcome : Outcome) : Shard :=
  { s with counters := s.counters.record outcome }

def recordRemoval (s : Shard) : RemovalCause → Shard
  | .evicted => s.record .eviction
  | .expired => s.record .expiration
  | .deleted => s

/-- What is reported of an entry that leaves. -/
def removalOf (cause : RemovalCause) (entry : Entry) : Removal := ⟨entry.hash, entry.cost, cause⟩

/-- The shard without one of its entries. -/
def without (s : Shard) (key : Key) (entry : Entry) : Shard :=
  { s with
    entries := s.entries.erase key
    placement := s.placement.remove key entry.segment entry.cost
    used := s.used - entry.cost }

/-- Takes an entry out, wherever it is placed. -/
def removeEntry (s : Shard) (key : Key) (cause : RemovalCause) : Option Removal × Shard :=
  match s.entries[key]? with
  | none => (none, s)
  | some entry => (some (removalOf cause entry), (s.without key entry).recordRemoval cause)

def removeAll (cause : RemovalCause) : List Key → Shard → List Removal × Shard
  | [], s => ([], s)
  | key :: keys, s =>
    let (removal, s) := s.removeEntry key cause
    let (removals, s) := removeAll cause keys s
    (removal.toList ++ removals, s)

/-- Frequency from which a window entry moves to main. The access in progress counts. -/
def promotionFrequency : Nat := 2

/-- This access is at least the second one seen. -/
def seenBefore (frequency : UInt64 → Nat) (hash : UInt64) : Bool :=
  decide (promotionFrequency ≤ frequency hash + 1)

/-- Moves an entry to main, if it is in the window. -/
def promote (s : Shard) (key : Key) (cost : Nat) : Shard :=
  match s.placement.promote key cost with
  | (true, placement) =>
    { s with
      placement
      entries := s.entries.modify key fun entry => { entry with segment := .main } }
  | (false, _) => s

/-- The residents behind sampled keys. -/
def victimsFor (entries : Std.TreeMap Key Entry) (keys : List Key) : List Victim :=
  keys.filterMap fun key => (entries[key]?).map fun entry => ⟨key, entry.hash, entry.cost⟩

def sampleVictims (entries : Std.TreeMap Key Entry) (exclude : List Key) (p : Placement) :
    List Victim × Placement :=
  let (keys, p) := p.sample exclude
  (victimsFor entries keys, p)

/-! ## Get -/

/-- An access moves a window entry to main, if the hash was seen before. -/
def touch (s : Shard) (frequency : UInt64 → Nat) (key : Key) (entry : Entry) (hash : UInt64) :
    Shard :=
  if entry.segment = .window ∧ seenBefore frequency hash then s.promote key entry.cost else s

/-- Looks a key up. An expired entry is dropped and counts as missing. A window entry that
was seen before moves to main. -/
def get (s : Shard) (frequency : UInt64 → Nat) (key : Key) (now : Instant) : Lookup × Shard :=
  match s.entries[key]? with
  | none => (⟨none, none⟩, s.record .miss)
  | some entry =>
    if entry.isExpired now then
      let (removal, s) := (s.record .miss).removeEntry key .expired
      (⟨none, removal⟩, s)
    else (⟨some entry.value, none⟩, (s.record .hit).touch frequency key entry entry.hash)

/-! ## Set -/

/-- Evicts other entries while the shard holds too much, the least frequent of a sample
first. Each turn takes one entry out, so there are no more turns than entries. -/
def shrink (frequency : UInt64 → Nat) (keep : Key) : Nat → Shard → List Removal × Shard
  | 0, s => ([], s)
  | turns + 1, s =>
    if s.used ≤ s.capacity then ([], s)
    else
      let (victims, placement) := sampleVictims s.entries [keep] s.placement
      let s := { s with placement }
      match Admission.weakest frequency victims with
      | none => ([], s)
      | some victim =>
        let (removal, s) := s.removeEntry victim.key .evicted
        let (removals, s) := shrink frequency keep turns s
        (removal.toList ++ removals, s)

/-- Gives an entry another value, cost and expiry. It stays where it is. -/
def revise (s : Shard) (key : Key) (entry : Entry) (value : ByteArray) (cost : Nat)
    (expiresAt : Option Instant) : Shard :=
  { s with
    entries := s.entries.insert key { entry with value, cost, expiresAt }
    placement := s.placement.adjustCost entry.segment entry.cost cost
    used := s.used - entry.cost + cost }

/-- Changes an entry in place. A window entry that has outgrown the window moves to main. -/
def rewrite (s : Shard) (key : Key) (value : ByteArray) (cost : Nat)
    (expiresAt : Option Instant) : Shard :=
  match s.entries[key]? with
  | none => s
  | some entry =>
    let s := s.revise key entry value cost expiresAt
    let outgrown := entry.segment = .window ∧ s.placement.windowCapacity < s.placement.windowCost
    if outgrown then s.promote key cost else s

/-- Writes over a live entry. A write is an access too, so the entry may move to main. If
the shard now holds too much, other entries go. -/
def overwrite (s : Shard) (frequency : UInt64 → Nat) (key : Key) (entry : Entry) (hash : UInt64)
    (value : ByteArray) (cost : Nat) (expiresAt : Option Instant) : SetResult × Shard :=
  let s := (s.touch frequency key entry hash).rewrite key value cost expiresAt
  let (removed, s) := shrink frequency key s.size s
  (⟨true, removed⟩, s.record .set)

/-- Stores a new entry, in the window if that has room. -/
def store (s : Shard) (key : Key) (hash : UInt64) (value : ByteArray) (cost : Nat)
    (expiresAt : Option Instant) : Shard :=
  let segment : Segment := if s.placement.windowHasRoom cost then .window else .main
  { s with
    placement := s.placement.insert key segment cost
    entries := s.entries.insert key ⟨value, cost, hash, expiresAt, segment⟩
    used := s.used + cost }

/-- Lets a new key in, or not. Each round chooses another resident, so one round more than
there are residents is enough. -/
def tryAdmit (s : Shard) (frequency : UInt64 → Nat) (key : Key) (hash : UInt64)
    (value : ByteArray) (cost : Nat) (expiresAt : Option Instant) : SetResult × Shard :=
  let needed := s.used + cost - s.capacity
  let judged := Admission.judge frequency hash needed (sampleVictims s.entries) (s.size + 1)
    s.placement
  let (decision, placement) := judged.getD (.refuse, s.placement)
  let s := { s with placement }
  match decision with
  | .refuse => (⟨false, []⟩, s.record .rejection)
  | .fits => (⟨true, []⟩, (s.store key hash value cost expiresAt).record .set)
  | .displace keys =>
    let (removed, s) := removeAll .evicted keys s
    (⟨true, removed⟩, (s.store key hash value cost expiresAt).record .set)

/-- Writes a key. A cost above the capacity is an error and changes nothing. What expires
at once is not stored, and drops the entry that was there. -/
def set (s : Shard) (frequency : UInt64 → Nat) (key : Key) (hash : UInt64) (value : ByteArray)
    (cost : Nat) (expiresAt : Option Instant) (now : Instant) :
    Except CacheError (SetResult × Shard) :=
  if s.capacity < cost then .error (.valueTooLarge cost s.capacity)
  else if expiredAt expiresAt now then
    let (removal, s) := s.removeEntry key .expired
    .ok (⟨false, removal.toList⟩, s.record .rejection)
  else match s.entries[key]? with
    | none => .ok (s.tryAdmit frequency key hash value cost expiresAt)
    | some entry =>
      if entry.isExpired now then
        let (removal, s) := s.removeEntry key .expired
        let (result, s) := s.tryAdmit frequency key hash value cost expiresAt
        .ok ({ result with removed := removal.toList ++ result.removed }, s)
      else .ok (s.overwrite frequency key entry hash value cost expiresAt)

/-! ## Delete, clear and sweep -/

/-- Takes a key out. The cause says if it had expired. -/
def delete (s : Shard) (key : Key) (now : Instant) : Option Removal × Shard :=
  match s.entries[key]? with
  | none => (none, s)
  | some entry => s.removeEntry key (if entry.isExpired now then .expired else .deleted)

/-- Drops every entry and says how many there were. -/
def clear (s : Shard) : Nat × Shard :=
  (s.size, { s with entries := ∅, placement := s.placement.clear, used := 0 })

def expiredKeys (s : Shard) (now : Instant) : List Key :=
  (s.entries.toList.filter fun (_, entry) => entry.isExpired now).map (·.1)

def removeExpired (s : Shard) (now : Instant) : List Removal × Shard :=
  removeAll .expired (s.expiredKeys now) s

end Shard

end LfuCache
