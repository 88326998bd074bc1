import LfuCache.Event
import LfuCache.Sketch

/-!
# From the queue to the sketch

A worker takes events out of the queue. Each access raises the counters of its hash, and
each event is counted. Nobody but the worker changes the sketch.
-/

namespace LfuCache

/-- What a worker has applied since it started. -/
structure WorkerTotals where
  accesses : Nat := 0
  deletions : Nat := 0
  evictions : Nat := 0
  expirations : Nat := 0
deriving DecidableEq, Repr

def WorkerTotals.count (t : WorkerTotals) : Event → WorkerTotals
  | .access _ => { t with accesses := t.accesses + 1 }
  | .removal r =>
    match r.cause with
    | .deleted => { t with deletions := t.deletions + 1 }
    | .evicted => { t with evictions := t.evictions + 1 }
    | .expired => { t with expirations := t.expirations + 1 }

inductive Worker where
  /-- None was ever started. -/
  | absent
  | running (totals : WorkerTotals)
  /-- It ended when its queue went away. Nobody has asked for the totals. -/
  | ended (totals : WorkerTotals)
  /-- It was shut down, and its totals were handed over. -/
  | stopped
deriving DecidableEq, Repr

/-- None without a worker. -/
def Worker.isRunning : Worker → Option Bool
  | .absent => none
  | .running _ => some true
  | .ended _ | .stopped => some false

structure Feed where
  queue : EventQueue
  /-- Nobody can push any more. -/
  abandoned : Bool
  worker : Worker
  sketch : Sketch

namespace Feed

def empty (queueCapacity : Nat) (sketch : Sketch) : Feed where
  queue := .empty queueCapacity
  abandoned := false
  worker := .absent
  sketch := sketch

/-! ## The worker's side -/

def learn (sketch : Sketch) : Event → Sketch
  | .access hash => sketch.increment hash
  | .removal _ => sketch

/-- The worker takes all that waits, the oldest first. -/
def work (f : Feed) (totals : WorkerTotals) : WorkerTotals × Feed :=
  let ⟨queue, abandoned, worker, sketch⟩ := f
  let (events, queue) := queue.drain
  (events.foldl .count totals, ⟨queue, abandoned, worker, events.foldl learn sketch⟩)

/-- Waits until the worker has applied all that was pushed before. -/
def wait (f : Feed) : Feed :=
  match f.worker with
  | .running totals =>
    let (totals, f) := f.work totals
    { f with worker := .running totals }
  | _ => f

/-- Starts a worker. Without anyone to push, it ends when the queue is empty.

One worker runs at a time: one that runs already is replaced, and its totals are gone. -/
def start (f : Feed) : Feed :=
  if f.abandoned then
    let (totals, f) := f.work {}
    { f with worker := .ended totals }
  else { f with worker := .running {} }

/-- Stops the worker after all that waits. Only the first call gets the totals. -/
def shutdown (f : Feed) : Option WorkerTotals × Feed :=
  match f.worker with
  | .running totals =>
    let (totals, f) := f.work totals
    (some totals, { f with worker := .stopped })
  | .ended totals => (some totals, { f with worker := .stopped })
  | .absent => (none, f)
  | .stopped => (none, f)

/-! ## The other side -/

def push (f : Feed) (event : Event) : Feed :=
  if f.abandoned then f else { f with queue := f.queue.push event }

def pushAll (f : Feed) (events : List Event) : Feed :=
  events.foldl push f

def receive (f : Feed) : Option Event × Feed :=
  let (event, queue) := f.queue.receive
  (event, { f with queue })

def drain (f : Feed) : List Event × Feed :=
  let (events, queue) := f.queue.drain
  (events, { f with queue })

def close (f : Feed) : Feed := { f with queue := f.queue.close }

/-- Nobody will push any more. A running worker takes what waits and ends. -/
def abandon (f : Feed) : Feed :=
  match f.worker with
  | .running totals =>
    let (totals, f) := f.work totals
    { f with abandoned := true, worker := .ended totals }
  | _ => { f with abandoned := true }

end Feed

end LfuCache
