import Mathlib
import LfuCache.Proofs.Engine.Calls
import LfuCache.Proofs.Shard.Contents

/-!
# Shards and routes

The cache as one map is the union of its shards. Each key has a route, and what a shard holds
is on its route, so that no two shards hold the same key and one look-up finds it.
-/

namespace LfuCache

namespace CacheConfig

def route (config : CacheConfig) (key : Key) : Nat := (keyHash key).toNat % config.shardCount

def limit (config : CacheConfig) (key : Key) : Nat := config.shardCapacity (config.route key)

end CacheConfig

/-! ## One shard -/

namespace Shard

/-- The shard has the capacity of its place, and only keys that are routed there. -/
structure At (s : Shard) (config : CacheConfig) (index : Nat) : Prop where
  capacity_eq : s.capacity = config.shardCapacity index
  routed : ∀ key content, s.contents key = some content →
    config.route key = index ∧ content.hash = keyHash key

variable {s t : Shard} {config : CacheConfig} {index : Nat} {key : Key}

theorem At.contents_eq_none (h : s.At config index) (hroute : config.route key ≠ index) :
    s.contents key = none := by
  cases hget : s.contents key with
  | none => rfl
  | some content => exact absurd (h.routed key content hget).1 hroute

theorem At.update {content : Option Content} {evicted : List Key} (h : s.At config index)
    (hcapacity : t.capacity = s.capacity)
    (hcontents : t.contents = Function.update (s.contents.without evicted) key content)
    (hnew : ∀ c, content = some c → config.route key = index ∧ c.hash = keyHash key) :
    t.At config index where
  capacity_eq := hcapacity.trans h.capacity_eq
  routed other c hother := by
    rw [hcontents, Function.update_apply] at hother
    split at hother
    · rename_i heq
      subst heq
      exact hnew c hother
    · rw [Contents.without_apply] at hother
      split at hother
      · exact absurd hother (by simp)
      · exact h.routed other c hother

end Shard

/-! ## All shards -/

namespace Engine

def contents (e : Engine) : Contents := fun key => e.shards.toList.findSome? (·.contents key)

/-- Each shard is the one of its place. -/
structure Sound (config : CacheConfig) (e : Engine) : Prop where
  config_eq : e.config = config
  size_eq : e.shards.size = config.shardCount
  shard : ∀ (i : Nat) (s : Shard), e.shards[i]? = some s → s.At config i

variable {config : CacheConfig} {e : Engine} {key : Key}

namespace Sound

theorem indexOf_eq (h : e.Sound config) (key : Key) :
    e.indexOf (keyHash key) = config.route key := by
  rw [indexOf, CacheConfig.route, h.size_eq]

theorem getElem?_route (h : e.Sound config) (key : Key) :
    e.shards[config.route key]? = some (e.shardOf (keyHash key)) := by
  rw [← h.indexOf_eq, shardOf]
  exact Array.getElem?_eq_getElem _

theorem shardOf_at (h : e.Sound config) (key : Key) :
    (e.shardOf (keyHash key)).At config (config.route key) := h.shard _ _ (h.getElem?_route key)

theorem shardOf_congr (h : e.Sound config) {other : Key}
    (hroute : config.route key = config.route other) :
    e.shardOf (keyHash other) = e.shardOf (keyHash key) := by
  have hkey := h.getElem?_route key
  rw [hroute, h.getElem?_route other] at hkey
  exact Option.some.inj hkey

theorem contents_eq (h : e.Sound config) (key : Key) :
    e.contents key = (e.shardOf (keyHash key)).contents key := by
  have hother : ∀ s ∈ e.shards.toList, s.contents key ≠ none →
      s = e.shardOf (keyHash key) := by
    intro s hs hsome
    obtain ⟨i, hi⟩ := List.mem_iff_getElem?.mp hs
    rw [Array.getElem?_toList] at hi
    by_contra hne
    refine hsome ((h.shard i s hi).contents_eq_none ?_)
    rintro rfl
    rw [h.getElem?_route] at hi
    exact hne (Option.some.inj hi).symm
  cases hfound : e.contents key with
  | none =>
    rw [contents, List.findSome?_eq_none_iff] at hfound
    exact (hfound _ (Array.mem_toList_iff.mpr (Array.mem_of_getElem? (h.getElem?_route key)))).symm
  | some content =>
    obtain ⟨s, hs, hsome⟩ := List.exists_of_findSome?_eq_some hfound
    rw [← hother s hs (by simp [hsome]), hsome]

theorem contents_of_shard (h : e.Sound config) {i : Nat} {s : Shard} {content : Content}
    (hi : e.shards[i]? = some s) (hget : s.contents key = some content) :
    e.contents key = some content := by
  have hroute := ((h.shard i s hi).routed key content hget).1
  rw [h.contents_eq, ← hget]
  rw [← hroute, h.getElem?_route] at hi
  rw [Option.some.inj hi]

theorem contents_of_holds (h : e.Sound config) {i : Nat} {s : Shard}
    (hi : e.shards[i]? = some s) (hholds : s.contents key ≠ none) :
    e.contents key = s.contents key := by
  obtain ⟨content, hget⟩ := Option.ne_none_iff_exists'.mp hholds
  rw [h.contents_of_shard hi hget, hget]

end Sound

/-! ## A change of one shard -/

theorem getElem?_setShard (h : e.Sound config) (key : Key) (s : Shard) (i : Nat) :
    (e.setShard (keyHash key) s).shards[i]? =
      if config.route key = i then some s else e.shards[i]? := by
  rw [setShard, Array.getElem?_set, h.indexOf_eq]

theorem Sound.setShard (h : e.Sound config) {s : Shard} (hs : s.At config (config.route key)) :
    (e.setShard (keyHash key) s).Sound config where
  config_eq := h.config_eq
  size_eq := by
    rw [Engine.setShard, Array.size_set]
    exact h.size_eq
  shard i t ht := by
    rw [getElem?_setShard h] at ht
    split at ht
    · rename_i hi
      obtain rfl := Option.some.inj ht
      exact hi ▸ hs
    · exact h.shard i t ht

theorem Sound.publish (h : e.Sound config) (events : List Event) :
    (e.publish events).Sound config := ⟨h.config_eq, h.size_eq, h.shard⟩

theorem Sound.contents_setShard (h : e.Sound config) {s : Shard} {evicted : List Key}
    {content : Option Content} (hs : s.At config (config.route key))
    (hevicted : ∀ other ∈ evicted, (e.shardOf (keyHash key)).contents other ≠ none)
    (hcontents : s.contents =
      Function.update ((e.shardOf (keyHash key)).contents.without evicted) key content) :
    (e.setShard (keyHash key) s).contents =
      Function.update (e.contents.without evicted) key content := by
  have hnext := h.setShard hs
  funext other
  have hlookup := hnext.getElem?_route other
  rw [getElem?_setShard h] at hlookup
  rw [hnext.contents_eq]
  by_cases hroute : config.route key = config.route other
  · -- The same shard: its look-ups are those of the cache.
    rw [if_pos hroute] at hlookup
    rw [← Option.some.inj hlookup, hcontents, Function.update_apply, Function.update_apply,
      Contents.without_apply, Contents.without_apply, h.contents_eq, h.shardOf_congr hroute]
  · -- Another shard: neither the key nor an evicted one is there.
    rw [if_neg hroute, h.getElem?_route] at hlookup
    have hne : other ≠ key := fun heq => hroute (heq ▸ rfl)
    have hkept : other ∉ evicted := fun hmem =>
      hevicted other hmem ((h.shardOf_at key).contents_eq_none (Ne.symm hroute))
    rw [← Option.some.inj hlookup, Function.update_of_ne hne, Contents.without_apply, if_neg hkept,
      h.contents_eq]

/-! ## A change of every shard -/

theorem Sound.each (h : e.Sound config) (next : Engine) {f : Nat → Shard → Shard}
    (hconfig : next.config = e.config) (hshards : next.shards = e.shards.mapIdx f)
    (hat : ∀ i s, s.At config i → (f i s).At config i) :
    next.Sound config ∧
      ∀ key, next.contents key = (f (config.route key) (e.shardOf (keyHash key))).contents key := by
  have hsound : next.Sound config := by
    refine ⟨hconfig.trans h.config_eq, ?_, ?_⟩
    · rw [hshards, Array.size_mapIdx]
      exact h.size_eq
    · intro i t ht
      rw [hshards, Array.getElem?_mapIdx, Option.map_eq_some_iff] at ht
      obtain ⟨s, hs, rfl⟩ := ht
      exact hat i s (h.shard i s hs)
  refine ⟨hsound, fun key => ?_⟩
  have hshard := hsound.getElem?_route key
  rw [hshards, Array.getElem?_mapIdx, h.getElem?_route] at hshard
  rw [hsound.contents_eq, ← Option.some.inj hshard]

end Engine

end LfuCache
