import Mathlib
import LfuCache.Proofs.Engine.PlainMap

/-!
# A cache that mirrors a plain map

As long as every shard has room for all that is routed to it, and nothing expires, each call of
the cache answers as the plain map does, and both hold the same afterwards.
-/

namespace LfuCache

/-! ## Contents that last -/

/-- What the cache holds for an entry of the plain map. -/
def Stored.content (key : Key) (stored : Stored) : Content :=
  ⟨stored.value, stored.cost, keyHash key, none⟩

theorem live_lasting (now : Instant) (key : Key) (stored : Option Stored) :
    Content.live now (stored.map (·.content key)) = stored.map (·.content key) ∧
      Content.stale now (stored.map (·.content key)) = none := by
  cases stored with
  | none => exact ⟨rfl, rfl⟩
  | some stored => exact Content.split_of_unexpired rfl

theorem deletion_lasting (now : Instant) (key : Key) (stored : Option Stored) :
    (stored.map (·.content key)).map (fun c => c.report (c.deletionCause now)) =
      stored.map fun s => ⟨keyHash key, s.cost, .deleted⟩ := by
  cases stored <;> rfl

def EngineAnswer.outcome? : EngineAnswer → Option Outcome
  | .found value => some (if value.isSome then .hit else .miss)
  | .wrote stored => some (if stored then .set else .rejection)
  | _ => none

namespace Engine

variable {config : CacheConfig} {e : Engine} {m : PlainMap}

/-- Every entry of the plain map is in the cache, and there is nothing else. -/
structure Mirrors (config : CacheConfig) (e : Engine) (m : PlainMap) : Prop where
  sound : e.Sound config
  accounted : ∀ (i : Nat) (s : Shard), e.shards[i]? = some s → s.Accounted
  contents : ∀ key, e.contents key = (m[key]?).map (·.content key)
  size : e.size = m.size

namespace Mirrors

theorem shardOf_accounted (h : Mirrors config e m) (key : Key) :
    (e.shardOf (keyHash key)).Accounted :=
  h.accounted _ _ (h.sound.getElem?_route key)

theorem shard_contents (h : Mirrors config e m) (key : Key) :
    (e.shardOf (keyHash key)).contents key = (m[key]?).map (·.content key) := by
  rw [← h.sound.contents_eq, h.contents]

theorem used_eq (h : Mirrors config e m) (key : Key) :
    (e.shardOf (keyHash key)).used = PlainMap.load config m (config.route key) := by
  rw [(h.shardOf_accounted key).used_eq, totalCost, PlainMap.load]
  apply Map.total_congr_map
  intro k
  have hcost : ((e.shardOf (keyHash key)).entries[k]?).map (·.cost) =
      ((e.shardOf (keyHash key)).contents k).map (·.cost) := by
    rw [Shard.contents, Option.map_map]
    rfl
  rw [hcost, PlainMap.get_routed]
  by_cases hroute : config.route k = config.route key
  · rw [if_pos hroute, h.sound.shardOf_congr hroute, h.shard_contents, Option.map_map]
    rfl
  · rw [if_neg hroute, (h.sound.shardOf_at key).contents_eq_none hroute]
    rfl

end Mirrors

/-! ## One call -/

/-- The cache answers as the plain map, holds the same afterwards, and has counted the answer. -/
structure Tracks (config : CacheConfig) (e : Engine) (m : PlainMap) (call : PlainCall) : Prop where
  answer : (e.call call.onCache).1 = (m.call call).1
  mirrors : Mirrors config (e.call call.onCache).2 (m.call call).2
  counters : ∀ o, (e.call call.onCache).2.total (·.counters.of o) =
    e.total (·.counters.of o) + (m.call call).1.outcome?.toList.count o

theorem Tracks.of_replaced (h : Mirrors config e m) {call : PlainCall} {answer : EngineAnswer}
    {hash : UInt64} {t : Shard} {events : List Event} {entered paid : ℤ} {removals : List Removal}
    (hcall : e.call call.onCache = (answer, (e.setShard hash t).publish events))
    (hanswer : answer = (m.call call).1)
    (hbooked : (e.shardOf hash).Booked answer.outcome?.toList entered paid removals t)
    (huncounted : countedRemovals removals = [])
    (hsize : (m.size : ℤ) + entered - removals.length = (m.call call).2.size)
    (hsound : ((e.setShard hash t).publish events).Sound config)
    (hcontents : ∀ key, ((e.setShard hash t).publish events).contents key =
      ((m.call call).2[key]?).map (·.content key)) : Tracks config e m call := by
  obtain ⟨hcounters, hcount⟩ := total_replaced hbooked events
  refine ⟨?_, ⟨?_, accounted_call h.accounted call.onCache, ?_, ?_⟩, ?_⟩
  · rw [hcall, hanswer]
  · rw [hcall]
    exact hsound
  · rw [hcall]
    exact hcontents
  · rw [h.size] at hcount
    rw [hcall]
    exact Int.ofNat_inj.mp (hcount.trans hsize)
  · intro o
    rw [hcall, hcounters, huncounted, hanswer]
    rfl

theorem tracks_get (h : Mirrors config e m) (key : ProperKey) (now : Instant) :
    Tracks config e m (.get key now) := by
  obtain ⟨hlive, hstale⟩ := live_lasting now key.val m[key.val]?
  obtain ⟨hvalue, hexpired, hcontents⟩ :=
    (e.shardOf (keyHash key.val)).get_contents e.frequencyOf key.val now
  have hbooked := Shard.booked_get (h.shardOf_accounted key.val) e.frequencyOf key.val now
  have hchanges := ((e.shardOf (keyHash key.val)).easings_get e.frequencyOf key.val now).changes
  rw [h.shard_contents, hlive] at hvalue hcontents
  rw [h.shard_contents, hstale] at hexpired
  generalize hget : (e.shardOf (keyHash key.val)).get e.frequencyOf key.val now = answer at *
  obtain ⟨hsound, hmap⟩ := h.sound.replace_one hchanges hcontents
    (by simp [Stored.content])
    (.access (keyHash key.val) :: (answer.1.expired.map Event.removal).toList)
  refine .of_replaced h (call_get key.property hget) ?_ hbooked ?_ ?_ hsound ?_
  · rw [hvalue, Option.map_map]
    rfl
  · rw [hexpired]
    rfl
  · simp [hexpired, PlainMap.call]
  · intro k
    rw [hmap, ← h.contents, Function.update_eq_self]
    exact h.contents k

theorem tracks_delete (h : Mirrors config e m) (key : ProperKey) (now : Instant) :
    Tracks config e m (.delete key now) := by
  obtain ⟨hremoval, hcontents⟩ := (e.shardOf (keyHash key.val)).delete_contents key.val now
  have hbooked := Shard.booked_delete (h.shardOf_accounted key.val) key.val now
  have hchanges := ((e.shardOf (keyHash key.val)).easings_delete key.val now).changes
  rw [h.shard_contents] at hremoval
  generalize hdelete : (e.shardOf (keyHash key.val)).delete key.val now = answer at *
  obtain ⟨hsound, hmap⟩ := h.sound.replace_one hchanges hcontents (by simp)
    (answer.1.map Event.removal).toList
  rw [deletion_lasting] at hremoval
  refine .of_replaced h (call_delete key.property hdelete) ?_ hbooked ?_ ?_ hsound ?_
  · rw [hremoval, PlainMap.call]
    cases m[key.val]? <;> rfl
  · rw [hremoval]
    cases m[key.val]? <;> rfl
  · rw [hremoval, PlainMap.call]
    cases hget : m[key.val]? with
    | none =>
      have hsize : (m.erase key.val).size = m.size := by
        rw [Std.TreeMap.size_erase, Std.TreeMap.contains_eq_isSome_getElem?, hget]
        rfl
      simp [hsize]
    | some stored =>
      have hsize := Map.size_erase hget
      simp only [Option.map_some, Option.toList_some, List.length_singleton]
      omega
  · intro k
    rw [hmap, Function.update_apply, PlainMap.call, Map.get_erase, h.contents]
    by_cases hk : k = key.val
    · simp [hk]
    · rw [if_neg hk, if_neg (Ne.symm hk)]

theorem tracks_set (h : Mirrors config e m) (httl : config.defaultTtl = none) (key : ProperKey)
    (value : ByteArray) (cost : Option Nat) (now : Instant)
    (hroom : ∀ i < config.shardCount,
      PlainMap.load config (m.call (.set key value cost now)).2 i ≤ config.shardCapacity i) :
    Tracks config e m (.set key value cost now) := by
  obtain ⟨hlive, hstale⟩ := live_lasting now key.val m[key.val]?
  have hat := h.sound.shardOf_at key.val
  have hheld : (e.shardOf (keyHash key.val)).heldCost key.val =
      (m[key.val]?).elim 0 (·.cost) := by
    rw [Shard.heldCost, h.shard_contents]
    cases m[key.val]? <;> rfl
  have hfits : (e.shardOf (keyHash key.val)).used + effectiveCost key.val value cost ≤
      (e.shardOf (keyHash key.val)).capacity + (e.shardOf (keyHash key.val)).heldCost key.val := by
    have hroute : config.route key.val < config.shardCount := by
      rw [← h.sound.indexOf_eq, ← h.sound.size_eq]
      exact e.indexOf_lt _
    have hload := PlainMap.load_insert config m key.val
      ⟨value, effectiveCost key.val value cost⟩
    have hbound := hroom _ hroute
    simp only [PlainMap.call] at hbound
    simp only at hload
    rw [hheld, h.used_eq, hat.capacity_eq]
    omega
  have hexpiry : expiryAfter (Option.or none e.config.defaultTtl) now = none := by
    rw [h.sound.config_eq, httl]
    rfl
  obtain ⟨t, hset⟩ := Shard.set_of_room (h.shardOf_accounted key.val) e.frequencyOf
    (keyHash key.val) value (rfl : expiredAt none now = false) hfits
  have hcontents := Shard.contents_of_no_eviction (fun c hc => (hat.routed key.val c hc).2) hset
  rw [h.shard_contents, hstale] at hset
  have hstored : (e.shardOf (keyHash key.val)).set e.frequencyOf key.val (keyHash key.val) value
      (effectiveCost key.val value cost) none now = .ok (⟨true, []⟩, t) := hset
  have hshardSet : e.shardSet key.val value cost none now = .ok (⟨true, []⟩, t) := by
    rw [shardSet, hexpiry]
    exact hstored
  have hbooked := Shard.booked_set (h.shardOf_accounted key.val) hstored
  obtain ⟨hsound, hmap⟩ := h.sound.replace_one (Shard.changes_set hset) hcontents (by simp)
    (.access (keyHash key.val) :: List.map Event.removal [])
  refine .of_replaced h (call_set_of_ok key.property hshardSet) rfl hbooked rfl ?_ hsound ?_
  · have hvacant : (e.shardOf (keyHash key.val)).Vacant key.val now ↔ m[key.val]? = none := by
      rw [Shard.vacant_iff_live, h.shard_contents, hlive, Option.map_eq_none_iff]
    rw [PlainMap.call, Std.TreeMap.size_insert, Std.TreeMap.contains_eq_isSome_getElem?]
    simp only [hvacant]
    cases m[key.val]? <;> simp
  · intro k
    rw [hmap, Function.update_apply, PlainMap.call, Map.get_insert, h.contents]
    by_cases hk : k = key.val
    · simp [hk, Stored.content]
    · rw [if_neg hk, if_neg (Ne.symm hk)]

theorem tracks_clear (h : Mirrors config e m) : Tracks config e m .clear := by
  have hfollows := h.sound.follows .clear
  obtain ⟨events, hstep, -⟩ := hfollows.step
  have hcontents : e.clear.contents = fun _ => none := by
    generalize hn : e.clear.contents = n
    have hcall : (e.call .clear).2.contents = n := hn
    rw [hcall] at hstep
    cases hstep with
    | cleared => rfl
  refine ⟨rfl, ⟨hfollows.sound, accounted_call h.accounted .clear, ?_, ?_⟩, ?_⟩
  · intro key
    have hnone : e.clear.contents key = none := congrFun hcontents key
    exact hnone
  · change e.clear.size = 0
    rw [size_eq_total, clear, total_mapShards]
    exact List.sum_eq_zero (by simp [Shard.clear, Shard.size])
  · intro o
    change e.clear.total _ = _
    rw [clear, total_mapShards]
    rfl

theorem Mirrors.tracks (h : Mirrors config e m) (httl : config.defaultTtl = none)
    (call : PlainCall) (hroom : call.isSet = true → ∀ i < config.shardCount,
      PlainMap.load config (m.call call).2 i ≤ config.shardCapacity i) :
    Tracks config e m call := by
  cases call with
  | get key now => exact tracks_get h key now
  | set key value cost now => exact tracks_set h httl key value cost now (hroom rfl)
  | delete key now => exact tracks_delete h key now
  | clear => exact tracks_clear h

end Engine

end LfuCache
