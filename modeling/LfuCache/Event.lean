import LfuCache.Shard

/-!
# Events

Shards do not touch the sketch. What happens to a key goes into a queue, and one worker
takes it from there. The queue never makes anyone wait: when it is full, its oldest event
is lost.
-/

namespace LfuCache

inductive Event where
  /-- A get or a set touched this hash. -/
  | access (hash : UInt64)
  /-- An entry left a shard. -/
  | removal (removal : Removal)
deriving DecidableEq, Repr

structure EventQueue where
  capacity : Nat
  /-- The oldest first. -/
  waiting : List Event
  /-- Events lost so far. -/
  dropped : Nat
  closed : Bool
deriving DecidableEq, Repr

namespace EventQueue

/-- A queue has room for one event at least. -/
def empty (capacity : Nat) : EventQueue where
  capacity := max capacity 1
  waiting := []
  dropped := 0
  closed := false

/-- Without room, nothing is sent. -/
def trySend (q : EventQueue) (event : Event) : Option EventQueue :=
  if q.waiting.length < q.capacity then some { q with waiting := q.waiting ++ [event] } else none

/-- The oldest event, if there is one. -/
def receive (q : EventQueue) : Option Event × EventQueue :=
  (q.waiting.head?, { q with waiting := q.waiting.tail })

def recordDrop (q : EventQueue) : EventQueue := { q with dropped := q.dropped + 1 }

/-- The queue has a receiving end of its own. An event that it takes there is lost. -/
def dropOldest (q : EventQueue) : EventQueue :=
  let (event, q) := q.receive
  if event.isSome then q.recordDrop else q

/-- A closed queue takes nothing, and loses nothing. A full one is sent the event again after
its oldest has made room. -/
def push (q : EventQueue) (event : Event) : EventQueue :=
  if q.closed then q
  else
    match q.trySend event with
    | some q => q
    | none =>
      let q := q.dropOldest
      (q.trySend event).getD q.recordDrop

def drain (q : EventQueue) : List Event × EventQueue :=
  (q.waiting, { q with waiting := [] })

/-- What waits can still be received. -/
def close (q : EventQueue) : EventQueue := { q with closed := true }

end EventQueue

end LfuCache
