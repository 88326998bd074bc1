import Mathlib
import LfuCache.Proofs.Engine.Events
import LfuCache.Proofs.Engine.Ledger

/-!
# Shards do not know of each other

An entry is in the shard of its key, with the hash of its key and a cost. A call of one key
leaves all other shards alone, and sees nothing of what is done there. So the order of two
calls in different shards makes no difference as long as the sketch learns nothing between.
-/

namespace LfuCache

variable {config : CacheConfig} {key other : Key}

/-! ## Costs -/

theorem Engine.one_le_effectiveCost (hkey : key ≠ []) (value : ByteArray) (cost : Option Nat) :
    1 ≤ effectiveCost key value cost := by
  have hlength := List.length_pos_of_ne_nil hkey
  unfold effectiveCost
  split <;> omega

theorem MapStep.one_le_cost {m n : Contents} {call : EngineCall} {answer : EngineAnswer}
    {events : List Event} {content : Content} (h : MapStep config m call answer events n)
    (hcosts : ∀ key content, m key = some content → 1 ≤ content.cost)
    (hheld : n key = some content) : 1 ≤ content.cost := by
  rcases h.holds_after hheld with ⟨hbefore, -⟩ | ⟨value, cost, ttl, now, rfl, rfl, rfl⟩
  · exact hcosts key content hbefore
  · cases h with
    | stored hkey =>
      -- What is stored has a key, and so a size.
      exact Engine.one_le_effectiveCost hkey value cost

theorem Shard.size_le_used {s : Shard} (h : s.Accounted)
    (hcosts : ∀ (key : Key) (entry : Entry), s.entries[key]? = some entry → 1 ≤ entry.cost) :
    s.size ≤ s.used := by
  rw [h.used_eq, totalCost, size, Map.size_eq_total, Map.total_eq_toList, Map.total_eq_toList]
  apply List.sum_le_sum
  intro x hx
  exact hcosts x.1 x.2 (Std.TreeMap.mem_toList_iff_getElem?_eq_some.mp hx)

namespace Engine

variable {e : Engine} {call first second : EngineCall}

theorem Sound.one_le_cost (h : e.Sound config) (hempty : e.contents = fun _ => none)
    (calls : List EngineCall) {content : Content}
    (hheld : (e.after calls).contents key = some content) : 1 ≤ content.cost := by
  induction calls using List.reverseRecOn generalizing key content with
  | nil =>
    have hnone : e.contents key = some content := hheld
    rw [hempty] at hnone
    exact absurd hnone (by simp)
  | append_singleton calls call ih =>
    obtain ⟨events, hstep, -⟩ := ((h.after calls).follows call).step
    rw [after_concat] at hheld
    exact hstep.one_le_cost (fun _ _ hbefore => ih hbefore) hheld

theorem size_le_usedCost
    (h : ∀ (i : Nat) (s : Shard), e.shards[i]? = some s → s.size ≤ s.used) :
    e.size ≤ e.stats.usedCost := by
  rw [stats_eq, size_eq_total]
  apply List.sum_le_sum
  intro s hs
  obtain ⟨i, hi⟩ := List.mem_iff_getElem?.mp hs
  rw [Array.getElem?_toList] at hi
  exact h i s hi

/-! ## Other shards -/

theorem asked_elsewhere (hkey : call.key? = some key) {i : Nat}
    (hi : e.indexOf (keyHash key) ≠ i) : e.asked i call = none := by
  cases call with
  | get k now =>
    obtain rfl := Option.some.inj hkey
    exact if_neg fun hasked => hi hasked.2
  | set k value cost ttl now =>
    obtain rfl := Option.some.inj hkey
    exact if_neg fun hasked => hi hasked.2
  | delete k now =>
    obtain rfl := Option.some.inj hkey
    exact if_neg fun hasked => hi hasked.2
  | clear => exact absurd hkey (by simp [EngineCall.key?])
  | cleanup => exact absurd hkey (by simp [EngineCall.key?])
  | learn => exact absurd hkey (by simp [EngineCall.key?])

namespace Sound

variable (h : e.Sound config)
include h

theorem getElem?_elsewhere (hkey : call.key? = some key) {i : Nat} (hi : i ≠ config.route key) :
    (e.call call).2.shards[i]? = e.shards[i]? := by
  rw [← h.indexOf_eq] at hi
  rw [getElem?_call, asked_elsewhere hkey hi.symm]
  exact (e.after_none i).symm

theorem shardOf_elsewhere (hkey : call.key? = some key)
    (hroute : config.route key ≠ config.route other) :
    (e.call call).2.shardOf (keyHash other) = e.shardOf (keyHash other) := by
  have hafter := (h.follows call).sound.getElem?_route other
  rw [h.getElem?_elsewhere hkey hroute.symm, h.getElem?_route] at hafter
  exact (Option.some.inj hafter).symm

theorem unseen (hfirst : first.key? = some key) (hsecond : second.key? = some other)
    (hroute : config.route key ≠ config.route other) :
    ((e.call first).2.call second).1 = (e.call second).1 ∧
      (e.call first).2.published second = e.published second ∧
      ∀ i, (e.call first).2.asked i second = e.asked i second := by
  have hnext := (h.follows first).sound
  have hconfig : (e.call first).2.config = e.config := hnext.config_eq.trans h.config_eq.symm
  have hfrequency : (e.call first).2.frequencyOf = e.frequencyOf := by
    refine frequencyOf_call (fun feed hlearn => ?_) e
    rw [hlearn] at hfirst
    exact absurd hfirst (by simp [EngineCall.key?])
  obtain ⟨hanswer, hpublished⟩ :=
    answer_congr hsecond hconfig hfrequency (h.shardOf_elsewhere hfirst hroute)
  exact ⟨hanswer, hpublished,
    fun i => asked_congr hconfig hfrequency (hnext.size_eq.trans h.size_eq.symm) i second⟩

end Sound

/-! ## Two calls in either order -/

/-- Nobody can tell which of the two calls came first, but by the order of the events. -/
structure Commute (e : Engine) (first second : EngineCall) : Prop where
  first_answer : ((e.call second).2.call first).1 = (e.call first).1
  second_answer : ((e.call first).2.call second).1 = (e.call second).1
  shards_eq : ((e.call first).2.call second).2.shards = ((e.call second).2.call first).2.shards
  events_perm : (e.published first ++ (e.call first).2.published second).Perm
    (e.published second ++ (e.call second).2.published first)

theorem Sound.commute (h : e.Sound config) (hfirst : first.key? = some key)
    (hsecond : second.key? = some other) (hroute : config.route key ≠ config.route other) :
    Commute e first second := by
  obtain ⟨hlater, hlaterEvents, hlaterAsked⟩ := h.unseen hfirst hsecond hroute
  obtain ⟨hearlier, hearlierEvents, hearlierAsked⟩ := h.unseen hsecond hfirst hroute.symm
  refine ⟨hearlier, hlater, ?_, ?_⟩
  · apply Array.ext_getElem?
    intro i
    simp only [getElem?_call, hlaterAsked, hearlierAsked, Option.map_map]
    -- One of the two calls asks this shard nothing.
    by_cases hi : e.indexOf (keyHash key) = i
    · have hne : e.indexOf (keyHash other) ≠ i := by
        rw [← hi, h.indexOf_eq, h.indexOf_eq]
        exact hroute.symm
      rw [asked_elsewhere hsecond hne]
      rfl
    · rw [asked_elsewhere hfirst hi]
      rfl
  · rw [hlaterEvents, hearlierEvents]
    exact List.perm_append_comm

/-! ## A new cache -/

/-- After any run of a new cache, each shard keeps to itself. -/
structure Isolates (config : CacheConfig) (new : Engine) : Prop where
  entry : ∀ calls (i : Nat) (s : Shard) (key : Key) (entry : Entry),
    (new.after calls).shards[i]? = some s → s.entries[key]? = some entry →
      i = (keyHash key).toNat % config.shardCount ∧ entry.hash = keyHash key ∧ 1 ≤ entry.cost
  unique : ∀ calls (i j : Nat) (s t : Shard) (key : Key),
    (new.after calls).shards[i]? = some s → (new.after calls).shards[j]? = some t →
      key ∈ s.entries → key ∈ t.entries → i = j
  size_le : ∀ calls, (new.after calls).size ≤ (new.after calls).stats.usedCost
  /-- A call of one key changes no other shard. -/
  frame : ∀ calls call key (i : Nat), call.key? = some key →
    i ≠ (keyHash key).toNat % config.shardCount →
      ((new.after calls).call call).2.shards[i]? = (new.after calls).shards[i]?
  /-- Calls of keys of different shards commute. -/
  commute : ∀ calls first second key other, first.key? = some key → second.key? = some other →
    (keyHash key).toNat % config.shardCount ≠ (keyHash other).toNat % config.shardCount →
      Commute (new.after calls) first second
  /-- All that a call tells the sketch are the events that it publishes. -/
  published : ∀ calls call, ((new.after calls).call call).2.feed =
    call.publish (new.after calls).feed ((new.after calls).published call)

/-- The shards of a valid cache are isolated: each key has one shard, and only there can its
calls read or change anything. -/
theorem shards_are_isolated (entropy : Nat → Generator) (hvalid : config.validate = .ok ()) :
    ∃ new, ofConfig config entropy = .ok new ∧ Isolates config new := by
  obtain ⟨new, hnew, hsound, hempty⟩ := ofConfig_sound entropy hvalid
  have hentry : ∀ calls (i : Nat) (s : Shard) (key : Key) (entry : Entry),
      (new.after calls).shards[i]? = some s → s.entries[key]? = some entry →
        i = config.route key ∧ entry.hash = keyHash key ∧ 1 ≤ entry.cost := by
    intro calls i s key entry hi hget
    have hafter := hsound.after calls
    have hcontent := Shard.contents_of_get hget
    obtain ⟨hroute, hhash⟩ := (hafter.shard i s hi).routed key _ hcontent
    exact ⟨hroute.symm, hhash,
      hsound.one_le_cost hempty calls (hafter.contents_of_shard hi hcontent)⟩
  refine ⟨new, hnew, hentry, ?_, ?_, ?_, ?_, fun calls call => call_feed _ call⟩
  · intro calls i j s t key hi hj hs ht
    have hfirst := hentry calls i s key _ hi (Std.TreeMap.getElem?_eq_some_getElem hs)
    have hsecond := hentry calls j t key _ hj (Std.TreeMap.getElem?_eq_some_getElem ht)
    exact hfirst.1.trans hsecond.1.symm
  · intro calls
    apply size_le_usedCost
    intro i s hi
    exact Shard.size_le_used (accounted_after_new hnew calls i s hi) fun key entry hget =>
      (hentry calls i s key entry hi hget).2.2
  · intro calls call key i hkey hi
    exact (hsound.after calls).getElem?_elsewhere hkey hi
  · intro calls first second key other hfirst hsecond hroute
    exact (hsound.after calls).commute hfirst hsecond hroute

/-- Two writes that fill a shard of one unit each. -/
theorem writes_in_two_shards_are_isolated :
    let config : CacheConfig := { totalCapacity := 2, shardCount := 2 }
    config.validate = .ok () ∧
      ∃ new, ofConfig config (fun _ => .ofSeed 0) = .ok new ∧ Isolates config new ∧
        Commute new (.set [97] ⟨#[]⟩ none none 0) (.set [98] ⟨#[]⟩ none none 0) := by
  intro config
  have hvalid : config.validate = .ok () := by decide
  obtain ⟨new, hnew, hisolates⟩ := shards_are_isolated (fun _ => .ofSeed 0) hvalid
  exact ⟨hvalid, new, hnew, hisolates,
    hisolates.commute [] _ _ [97] [98] rfl rfl (by decide +kernel)⟩

end Engine

end LfuCache
