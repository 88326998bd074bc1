import Mathlib
import LfuCache.Engine
import LfuCache.Proofs.Shard.Calls

/-!
# Runs of a cache

A call names an operation and the time that its clock shows. Between two operations the
worker may have moved on in any way, and clocks may go back. A log keeps each call with its
answer.
-/

namespace LfuCache

inductive EngineCall where
  | get (key : Key) (now : Instant)
  | set (key : Key) (value : ByteArray) (cost : Option Nat) (ttl : Option Duration) (now : Instant)
  | delete (key : Key) (now : Instant)
  | clear
  | cleanup (orders : Nat → SweepOrder) (now : Instant)
  /-- Queue, worker and sketch are in another state from here on. -/
  | learn (feed : Feed)

inductive EngineAnswer where
  | found (value : Option ByteArray)
  | wrote (stored : Bool)
  | deleted (live : Bool)
  | cleared
  | swept (count : Nat)
  | learned
  | failed (error : CacheError)

namespace Engine

/-! ## Sweeps in any order -/

def cleanupIn (e : Engine) (orders : Nat → SweepOrder) (now : Instant) : Nat × Engine :=
  let swept := e.shards.mapIdx fun i shard => shard.removeExpiredIn (orders i) now
  let removals := swept.toList.flatMap (·.1)
  (removals.length,
    ({ e with
      shards := swept.map (·.2)
      shards_pos := by simpa [swept] using e.shards_pos } : Engine).publish
        (removals.map .removal))

theorem cleanupIn_ascending (e : Engine) (now : Instant) :
    e.cleanupIn (fun _ => .ascending) now = e.cleanup now := by
  have hswept : (e.shards.mapIdx fun _ shard => shard.removeExpiredIn .ascending now) =
      e.shards.map fun shard => shard.removeExpired now := by
    ext i : 1
    · simp
    · simp [Shard.removeExpiredIn_ascending]
  simp [cleanupIn, cleanup, mapShards, hswept, List.flatMap_map, Function.comp_def]

/-! ## Calls -/

/-- A call that fails leaves the cache as it was. -/
def call (e : Engine) : EngineCall → EngineAnswer × Engine
  | .get key now =>
    match e.get key now with
    | .ok (value, e) => (.found value, e)
    | .error error => (.failed error, e)
  | .set key value cost ttl now =>
    match e.set key value cost ttl now with
    | .ok (stored, e) => (.wrote stored, e)
    | .error error => (.failed error, e)
  | .delete key now =>
    match e.delete key now with
    | .ok (live, e) => (.deleted live, e)
    | .error error => (.failed error, e)
  | .clear => (.cleared, e.clear)
  | .cleanup orders now =>
    let (count, e) := e.cleanupIn orders now
    (.swept count, e)
  | .learn feed => (.learned, { e with feed })

def after (e : Engine) (calls : List EngineCall) : Engine :=
  calls.foldl (fun e call => (e.call call).2) e

/-- The calls of a run and their answers. -/
def log (e : Engine) : List EngineCall → List (EngineCall × EngineAnswer)
  | [] => []
  | call :: calls => (call, (e.call call).1) :: (e.call call).2.log calls

theorem after_concat (e : Engine) (calls : List EngineCall) (call : EngineCall) :
    e.after (calls ++ [call]) = ((e.after calls).call call).2 := List.foldl_append

theorem log_concat (e : Engine) (calls : List EngineCall) (call : EngineCall) :
    e.log (calls ++ [call]) = e.log calls ++ [(call, ((e.after calls).call call).1)] := by
  induction calls generalizing e with
  | nil => rfl
  | cons first calls ih =>
    simp only [List.cons_append, log, ih]
    rfl

end Engine

end LfuCache
