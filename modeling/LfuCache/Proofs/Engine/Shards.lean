import Mathlib
import LfuCache.Proofs.Engine.LastWrite
import LfuCache.Proofs.Shard.Accounting

/-!
# What the shards are asked

A call of the cache asks one shard, or all of them, or none. So a run of the cache is one run
of each shard, and what is true of every shard in every run is true of all shards of a cache.
-/

namespace LfuCache.Engine

/-- What a shard is asked in a call of the cache. A call with an empty key asks nobody. -/
def asked (e : Engine) (index : Nat) : EngineCall → Option ShardCall
  | .get key now =>
    if key ≠ [] ∧ e.indexOf (keyHash key) = index then some (.get e.frequencyOf key now) else none
  | .set key value cost ttl now =>
    if key ≠ [] ∧ e.indexOf (keyHash key) = index then
      some (.set e.frequencyOf key (keyHash key) value (effectiveCost key value cost)
        (expiryAfter (ttl.or e.config.defaultTtl) now) now)
    else none
  | .delete key now =>
    if key ≠ [] ∧ e.indexOf (keyHash key) = index then some (.delete key now) else none
  | .clear => some .clear
  | .cleanup orders now => some (.removeExpired (orders index) now)
  | .learn _ => none

def askedIn (e : Engine) (index : Nat) : List EngineCall → List ShardCall
  | [] => []
  | call :: calls => (e.asked index call).toList ++ (e.call call).2.askedIn index calls

theorem length_askedIn_le (e : Engine) (i : Nat) (calls : List EngineCall) :
    (e.askedIn i calls).length ≤ calls.length := by
  induction calls generalizing e with
  | nil => exact Nat.le_refl _
  | cons call calls ih =>
    have hrest := ih (e.call call).2
    have hone : (e.asked i call).toList.length ≤ 1 := by cases e.asked i call <;> simp
    rw [askedIn, List.length_append, List.length_cons]
    omega

theorem after_none (e : Engine) (i : Nat) :
    e.shards[i]? = (e.shards[i]?).map fun s => s.after (none : Option ShardCall).toList := by
  simp [Shard.after]

theorem getElem?_replaced (e : Engine) (key : Key) (events : List Event) (call : ShardCall)
    (i : Nat) :
    ((e.setShard (keyHash key) ((e.shardOf (keyHash key)).call call).2).publish events).shards[i]? =
      (e.shards[i]?).map fun s =>
        s.after (if e.indexOf (keyHash key) = i then some call else none).toList := by
  rw [publish, setShard, Array.getElem?_set]
  by_cases hi : e.indexOf (keyHash key) = i
  · subst hi
    rw [if_pos rfl, if_pos rfl, Array.getElem?_eq_getElem (e.indexOf_lt _)]
    rfl
  · rw [if_neg hi, if_neg hi]
    exact e.after_none i

theorem getElem?_call (e : Engine) (call : EngineCall) (i : Nat) :
    (e.call call).2.shards[i]? = (e.shards[i]?).map fun s => s.after (e.asked i call).toList := by
  cases call with
  | get key now =>
    by_cases hkey : key = []
    · subst hkey
      exact e.after_none i
    · simp only [asked, ne_eq, hkey, not_false_eq_true, true_and, call_get hkey rfl]
      exact e.getElem?_replaced key _ (.get e.frequencyOf key now) i
  | delete key now =>
    by_cases hkey : key = []
    · subst hkey
      exact e.after_none i
    · simp only [asked, ne_eq, hkey, not_false_eq_true, true_and, call_delete hkey rfl]
      exact e.getElem?_replaced key _ (.delete key now) i
  | set key value cost ttl now =>
    by_cases hkey : key = []
    · subst hkey
      exact e.after_none i
    · simp only [asked, ne_eq, hkey, not_false_eq_true, true_and]
      rw [← e.getElem?_replaced key []]
      cases hset : e.shardSet key value cost ttl now with
      | error error =>
        rw [call_set_of_error hkey hset]
        unfold shardSet at hset
        simp only [Shard.call, hset]
        simp [publish, setShard, shardOf]
      | ok answer =>
        obtain ⟨result, t⟩ := answer
        rw [call_set_of_ok hkey hset]
        unfold shardSet at hset
        simp only [Shard.call, hset]
        rfl
  | clear =>
    simp only [call, clear, mapShards, Array.getElem?_map, asked, Option.toList_some]
    rfl
  | cleanup orders now =>
    simp only [call, cleanupIn, publish, Array.getElem?_map, Array.getElem?_mapIdx, Option.map_map,
      asked, Option.toList_some]
    rfl
  | learn feed => exact e.after_none i

theorem accounted_call {e : Engine}
    (h : ∀ (i : Nat) (s : Shard), e.shards[i]? = some s → s.Accounted)
    (call : EngineCall) (i : Nat) (s : Shard) (hs : (e.call call).2.shards[i]? = some s) :
    s.Accounted := by
  rw [getElem?_call] at hs
  obtain ⟨before, hbefore, rfl⟩ := Option.map_eq_some_iff.mp hs
  exact (h i before hbefore).after _

theorem getElem?_after (e : Engine) (calls : List EngineCall) (i : Nat) :
    (e.after calls).shards[i]? = (e.shards[i]?).map fun s => s.after (e.askedIn i calls) := by
  induction calls generalizing e with
  | nil => simp [after, askedIn, Shard.after]
  | cons call calls ih =>
    have hrest := ih (e.call call).2
    rw [getElem?_call, Option.map_map] at hrest
    exact hrest.trans (by simp [askedIn, Shard.after_append, Function.comp_def])

variable {config : CacheConfig} {entropy : Nat → Generator} {new : Engine} {i : Nat} {s : Shard}

theorem getElem?_new (hnew : ofConfig config entropy = .ok new) (hs : new.shards[i]? = some s) :
    s = newShard config entropy i := by
  unfold ofConfig at hnew
  split at hnew
  · exact absurd hnew (by simp)
  · split at hnew
    · rw [← Except.ok.inj hnew] at hs
      obtain ⟨hi, rfl⟩ := Array.getElem?_eq_some_iff.mp hs
      exact Array.getElem_ofFn _
    · exact absurd hnew (by simp)

/-- A shard of a cache is what its own run has made of a new shard. -/
theorem getElem?_after_new (hnew : ofConfig config entropy = .ok new) (calls : List EngineCall)
    (hs : (new.after calls).shards[i]? = some s) :
    s = (newShard config entropy i).after (new.askedIn i calls) := by
  rw [getElem?_after] at hs
  obtain ⟨first, hfirst, rfl⟩ := Option.map_eq_some_iff.mp hs
  rw [getElem?_new hnew hfirst]

theorem accounted_after_new (hnew : ofConfig config entropy = .ok new) (calls : List EngineCall)
    (i : Nat) (s : Shard) (hs : (new.after calls).shards[i]? = some s) : s.Accounted := by
  rw [getElem?_after_new hnew calls hs]
  exact (Shard.accounted_empty _ _ _ _).after _

end LfuCache.Engine
