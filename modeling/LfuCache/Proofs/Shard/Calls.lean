import Mathlib
import LfuCache.Shard

/-!
# Runs of a shard

A call names an operation and all that it is given, frequencies and time among it. A run is
any list of calls. Nothing ties one call to the next: frequencies may change and clocks may
go back.
-/

namespace LfuCache

/-- The order in which a sweep meets the expired keys. It meets each once. -/
structure SweepOrder where
  arrange : List Key → List Key
  perm : ∀ keys, (arrange keys).Perm keys

def SweepOrder.ascending : SweepOrder := ⟨id, fun _ => .refl _⟩

inductive ShardCall where
  | get (frequency : UInt64 → Nat) (key : Key) (now : Instant)
  | set (frequency : UInt64 → Nat) (key : Key) (hash : UInt64) (value : ByteArray) (cost : Nat)
      (expiresAt : Option Instant) (now : Instant)
  | delete (key : Key) (now : Instant)
  | clear
  | removeExpired (order : SweepOrder) (now : Instant)

inductive ShardAnswer where
  | found (lookup : Lookup)
  | wrote (result : SetResult)
  | failed (error : CacheError)
  | deleted (removal : Option Removal)
  | cleared (count : Nat)
  | swept (removals : List Removal)

namespace Shard

def removeExpiredIn (s : Shard) (order : SweepOrder) (now : Instant) : List Removal × Shard :=
  removeAll .expired (order.arrange (s.expiredKeys now)) s

theorem removeExpiredIn_ascending (s : Shard) (now : Instant) :
    s.removeExpiredIn .ascending now = s.removeExpired now := rfl

/-- A call that fails leaves the shard as it was. -/
def call (s : Shard) : ShardCall → ShardAnswer × Shard
  | .get frequency key now =>
    let (lookup, s) := s.get frequency key now
    (.found lookup, s)
  | .set frequency key hash value cost expiresAt now =>
    match s.set frequency key hash value cost expiresAt now with
    | .ok (result, s) => (.wrote result, s)
    | .error e => (.failed e, s)
  | .delete key now =>
    let (removal, s) := s.delete key now
    (.deleted removal, s)
  | .clear =>
    let (count, s) := s.clear
    (.cleared count, s)
  | .removeExpired order now =>
    let (removals, s) := s.removeExpiredIn order now
    (.swept removals, s)

def after (s : Shard) (calls : List ShardCall) : Shard :=
  calls.foldl (fun s call => (s.call call).2) s

theorem after_cons (s : Shard) (call : ShardCall) (calls : List ShardCall) :
    s.after (call :: calls) = (s.call call).2.after calls := rfl

theorem after_append (s : Shard) (calls more : List ShardCall) :
    s.after (calls ++ more) = (s.after calls).after more := List.foldl_append

/-- A run of a new shard leads there. -/
def Reachable (s : Shard) : Prop :=
  ∃ capacity windowCapacity sampleSize random calls,
    s = (empty capacity (.empty windowCapacity sampleSize random)).after calls

theorem after_induction {P : Shard → Prop} (hstep : ∀ s call, P s → P (s.call call).2)
    {s : Shard} (h : P s) (calls : List ShardCall) : P (s.after calls) := by
  induction calls generalizing s with
  | nil => exact h
  | cons call calls ih => exact ih (hstep s call h)

end Shard

end LfuCache
