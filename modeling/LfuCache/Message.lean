import LfuCache.Json.Record
import LfuCache.Stats

/-!
# Messages

What a client and a server say to each other. Every message is a record. Keys and values
are text here, though the cache holds any bytes.
-/

namespace LfuCache

/-- A type whose values are written as records. -/
class Message (α : Type) where
  fields : List Json.Field
  toRecord : α → Json.Record fields
  ofRecord : Json.Record fields → α

namespace Message

variable {α : Type} [Message α]

/-- The fields that are written, in order. -/
def members (message : α) : List (String × Json.Scalar) := (toRecord message).members

def write (message : α) : String := Json.writeCompact (members message)

/-- Reads a message at the front of a text. What follows does not count. -/
def readFront (α : Type) [Message α] (text : List UInt8) : Except Json.Fault α := do
  let (record, _) ← Json.readRecord (fields α) text
  .ok (ofRecord record)

/-- Reads a text that is a message. -/
def read (α : Type) [Message α] (text : List UInt8) : Except Json.Fault α := do
  .ok (ofRecord (← Json.readWholeRecord (fields α) text))

end Message

/-! ## Requests -/

structure SetRequest where
  key : String
  value : String
  /-- Capacity units. None, or zero, means as many as there are bytes. -/
  cost : Option Nat := none
  /-- Seconds to live. Zero is over at once. -/
  ttl : Option Nat := none
deriving DecidableEq, Repr

instance : Message SetRequest where
  fields := [⟨"key", .text⟩, ⟨"value", .text⟩, ⟨"cost", .maybeWhole⟩, ⟨"ttl", .maybeWhole⟩]
  toRecord r := (r.key, r.value, r.cost, r.ttl, ())
  ofRecord := fun (key, value, cost, ttl, ()) => ⟨key, value, cost, ttl⟩

/-- What is wrong with a request that can be read. -/
def SetRequest.problem? (r : SetRequest) : Option String :=
  if r.key.isEmpty then some "Key cannot be empty" else none

/-! ## Replies -/

structure ValueReply where
  key : String
  value : String
deriving DecidableEq, Repr

instance : Message ValueReply where
  fields := [⟨"key", .text⟩, ⟨"value", .text⟩]
  toRecord r := (r.key, r.value, ())
  ofRecord := fun (key, value, ()) => ⟨key, value⟩

structure SetReply where
  key : String
  /-- False if admission turned the write away. -/
  admitted : Bool
deriving DecidableEq, Repr

instance : Message SetReply where
  fields := [⟨"key", .text⟩, ⟨"admitted", .flag⟩]
  toRecord r := (r.key, r.admitted, ())
  ofRecord := fun (key, admitted, ()) => ⟨key, admitted⟩

structure DeleteReply where
  key : String
  /-- False if there was no such key. -/
  removed : Bool
deriving DecidableEq, Repr

instance : Message DeleteReply where
  fields := [⟨"key", .text⟩, ⟨"removed", .flag⟩]
  toRecord r := (r.key, r.removed, ())
  ofRecord := fun (key, removed, ()) => ⟨key, removed⟩

structure ClearReply where
  message : String := "Cache cleared"
deriving DecidableEq, Repr

instance : Message ClearReply where
  fields := [⟨"message", .text⟩]
  toRecord r := (r.message, ())
  ofRecord := fun (message, ()) => ⟨message⟩

structure StatsReply where
  stats : Stats
  hitRate : Double
deriving DecidableEq

def StatsReply.ofStats (stats : Stats) : StatsReply := ⟨stats, stats.hitRate⟩

instance : Message StatsReply where
  fields :=
    [⟨"hits", .whole⟩, ⟨"misses", .whole⟩, ⟨"sets", .whole⟩, ⟨"rejections", .whole⟩,
      ⟨"evictions", .whole⟩, ⟨"expirations", .whole⟩, ⟨"dropped_events", .whole⟩,
      ⟨"total_entries", .whole⟩, ⟨"used_cost", .whole⟩, ⟨"capacity", .whole⟩, ⟨"hit_rate", .real⟩]
  toRecord r :=
    (r.stats.hits, r.stats.misses, r.stats.sets, r.stats.rejections, r.stats.evictions,
      r.stats.expirations, r.stats.droppedEvents, r.stats.totalEntries, r.stats.usedCost,
      r.stats.capacity, r.hitRate, ())
  ofRecord := fun (hits, misses, sets, rejections, evictions, expirations, droppedEvents,
      totalEntries, usedCost, capacity, hitRate, ()) =>
    ⟨{ hits, misses, sets, rejections, evictions, expirations, droppedEvents, totalEntries,
        usedCost, capacity }, hitRate⟩

structure HealthReply where
  status : String
  timestamp : String
deriving DecidableEq, Repr

def HealthReply.healthy (timestamp : String) : HealthReply := ⟨"healthy", timestamp⟩

instance : Message HealthReply where
  fields := [⟨"status", .text⟩, ⟨"timestamp", .text⟩]
  toRecord r := (r.status, r.timestamp, ())
  ofRecord := fun (status, timestamp, ()) => ⟨status, timestamp⟩

structure ErrorReply where
  error : String
deriving DecidableEq, Repr

instance : Message ErrorReply where
  fields := [⟨"error", .text⟩]
  toRecord r := (r.error, ())
  ofRecord := fun (error, ()) => ⟨error⟩

end LfuCache
