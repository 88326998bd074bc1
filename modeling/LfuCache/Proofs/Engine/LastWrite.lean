import Mathlib
import LfuCache.Proofs.Engine.Refinement

/-!
# No stale reads

A run starts with an empty map and goes by steps of the map. So what is held under a key is
what its last write bound to it, and nothing since then has taken it away.
-/

namespace LfuCache

variable {config : CacheConfig} {key : Key}

/-! ## The last write -/

/-- A call that settles what is held under the key. Writes that fail settle nothing. -/
def Settles (key : Key) : EngineCall × EngineAnswer → Prop
  | (.set other _ _ _ _, .wrote _) => other = key
  | (.delete other _, .deleted _) => other = key
  | (.clear, _) => True
  | _ => False

/-- The last call that settled the key was a write of this content, and it was stored. -/
def LastWrite (config : CacheConfig) (key : Key) (content : Content)
    (log : List (EngineCall × EngineAnswer)) : Prop :=
  ∃ before later value cost ttl now,
    log = before ++ (.set key value cost ttl now, .wrote true) :: later ∧
      content = Content.written config key value cost ttl now ∧
      ∀ entry ∈ later, ¬Settles key entry

theorem LastWrite.concat {content : Content} {log : List (EngineCall × EngineAnswer)}
    (h : LastWrite config key content log) {entry : EngineCall × EngineAnswer}
    (hentry : ¬Settles key entry) : LastWrite config key content (log ++ [entry]) := by
  obtain ⟨before, later, value, cost, ttl, now, rfl, hcontent, hlater⟩ := h
  refine ⟨before, later ++ [entry], value, cost, ttl, now, by simp, hcontent, ?_⟩
  intro other hother
  rw [List.mem_append, List.mem_singleton] at hother
  rcases hother with hother | rfl
  · exact hlater other hother
  · exact hentry

/-- A step keeps what it does not settle, and a key that it settles is held only if the step
has just stored it. -/
theorem MapStep.holds_after {m n : Contents} {call : EngineCall} {answer : EngineAnswer}
    {events : List Event} {content : Content} (h : MapStep config m call answer events n)
    (hheld : n key = some content) :
    (m key = some content ∧ ¬Settles key (call, answer)) ∨
      ∃ value cost ttl now, call = .set key value cost ttl now ∧ answer = .wrote true ∧
        content = Content.written config key value cost ttl now := by
  cases h with
  | @emptyKey call hcall =>
    refine .inl ⟨hheld, ?_⟩
    cases call with
    | clear => exact absurd hcall (by simp [EngineCall.key?])
    | _ => exact id
  | @found other now hother =>
    refine .inl ⟨?_, id⟩
    rw [Function.update_apply] at hheld
    split at hheld
    · rename_i heq
      rw [heq]
      exact Content.eq_some_of_live hheld
    · exact hheld
  | tooLarge => exact .inl ⟨hheld, id⟩
  | @refused other =>
    rw [Function.update_apply] at hheld
    split at hheld
    · exact absurd hheld (by simp)
    · rename_i hne
      exact .inl ⟨hheld, fun heq : other = key => hne heq.symm⟩
  | @stored other value cost ttl now evicted removals =>
    rw [Function.update_apply] at hheld
    split at hheld
    · rename_i heq
      subst heq
      exact .inr ⟨value, cost, ttl, now, rfl, rfl, (Option.some.inj hheld).symm⟩
    · rename_i hne
      rw [Contents.without_apply] at hheld
      split at hheld
      · exact absurd hheld (by simp)
      · exact .inl ⟨hheld, fun heq : other = key => hne heq.symm⟩
  | @deleted other =>
    rw [Function.update_apply] at hheld
    split at hheld
    · exact absurd hheld (by simp)
    · rename_i hne
      exact .inl ⟨hheld, fun heq : other = key => hne heq.symm⟩
  | cleared => exact absurd hheld (by simp)
  | swept => exact .inl ⟨Content.eq_some_of_live hheld, id⟩
  | learned => exact .inl ⟨hheld, id⟩

theorem MapStep.held_of_found {m n : Contents} {now : Instant} {value : ByteArray}
    {events : List Event} (h : MapStep config m (.get key now) (.found (some value)) events n) :
    ∃ content, m key = some content ∧ content.isExpired now = false ∧ content.value = value := by
  generalize hanswer : EngineAnswer.found (some value) = answer at h
  cases h with
  | emptyKey => exact absurd hanswer (by simp)
  | found =>
    obtain ⟨content, hlive, hvalue⟩ :=
      Option.map_eq_some_iff.mp (EngineAnswer.found.inj hanswer).symm
    obtain ⟨hheld, hnot⟩ := Option.filter_eq_some_iff.mp hlive
    exact ⟨content, hheld, by simpa using hnot, hvalue⟩

namespace Engine

variable {e : Engine}

/-! ## Runs -/

theorem Sound.after (h : e.Sound config) (calls : List EngineCall) :
    (e.after calls).Sound config := by
  induction calls generalizing e with
  | nil => exact h
  | cons call calls ih => exact ih (h.follows call).sound

theorem Sound.lastWrite (h : e.Sound config) (hempty : e.contents = fun _ => none)
    (calls : List EngineCall) {content : Content}
    (hheld : (e.after calls).contents key = some content) :
    LastWrite config key content (e.log calls) := by
  induction calls using List.reverseRecOn generalizing content with
  | nil =>
    have hnone : e.contents key = some content := hheld
    rw [hempty] at hnone
    exact absurd hnone (by simp)
  | append_singleton calls call ih =>
    obtain ⟨events, hstep, -⟩ := ((h.after calls).follows call).step
    rw [after_concat] at hheld
    rw [log_concat]
    rcases hstep.holds_after hheld with ⟨hbefore, hsettles⟩ | ⟨value, cost, ttl, now, rfl, hstored,
      hcontent⟩
    · exact (ih hbefore).concat hsettles
    · rw [hstored]
      exact ⟨e.log calls, [], value, cost, ttl, now, rfl, hcontent, by simp⟩

/-! ## A new cache -/

theorem counts_of_valid (h : config.validate = .ok ()) :
    config.totalCapacity ≤ maxTotalCapacity ∧ 0 < config.shardCount ∧
      config.shardCount ≤ config.totalCapacity := by
  unfold CacheConfig.validate at h
  by_cases hcapacity : config.totalCapacity = 0
  · rw [if_pos hcapacity] at h
    cases h
  rw [if_neg hcapacity] at h
  by_cases hlarge : maxTotalCapacity < config.totalCapacity
  · rw [if_pos hlarge] at h
    cases h
  rw [if_neg hlarge] at h
  by_cases hcount : config.shardCount = 0
  · rw [if_pos hcount] at h
    cases h
  rw [if_neg hcount] at h
  by_cases hbelow : config.totalCapacity < config.shardCount
  · rw [if_pos hbelow] at h
    cases h
  omega

theorem shardCount_pos (h : config.validate = .ok ()) : 0 < config.shardCount :=
  (counts_of_valid h).2.1

theorem newShard_at (config : CacheConfig) (entropy : Nat → Generator) (index : Nat) :
    (newShard config entropy index).At config index ∧
      ∀ key, (newShard config entropy index).contents key = none := by
  have hempty : ∀ key, (newShard config entropy index).contents key = none := by
    intro key
    simp [newShard, Shard.empty, Shard.contents]
  refine ⟨⟨rfl, fun key content hkey => ?_⟩, hempty⟩
  rw [hempty] at hkey
  exact absurd hkey (by simp)

theorem ofConfig_sound (entropy : Nat → Generator) (h : config.validate = .ok ()) :
    ∃ e, ofConfig config entropy = .ok e ∧ e.Sound config ∧ e.contents = fun _ => none := by
  have hcount := shardCount_pos h
  have hnew : ∀ (i : Nat) (s : Shard),
      (Array.ofFn fun i : Fin config.shardCount => newShard config entropy i.val)[i]? = some s →
        s = newShard config entropy i := by
    intro i s hs
    obtain ⟨hi, rfl⟩ := Array.getElem?_eq_some_iff.mp hs
    rw [Array.getElem_ofFn]
  refine ⟨_, by rw [ofConfig, h]; exact dif_pos hcount, ⟨rfl, Array.size_ofFn, ?_⟩, ?_⟩
  · intro i s hs
    rw [hnew i s hs]
    exact (newShard_at config entropy i).1
  · funext key
    rw [contents, List.findSome?_eq_none_iff]
    intro s hs
    obtain ⟨i, hi⟩ := List.mem_iff_getElem?.mp hs
    rw [Array.getElem?_toList] at hi
    rw [hnew i s hi]
    exact (newShard_at config entropy i).2 key

/-! ## The cache is a map -/

/-- After any run of a new cache, each call is a step of one map, and no read is stale. -/
structure RefinesMap (config : CacheConfig) (new : Engine) : Prop where
  empty : new.contents = fun _ => none
  /-- The map is the union of the shards, and no two of them hold the same key. -/
  union : ∀ calls (i : Nat) (s : Shard) (key : Key) (content : Content),
    (new.after calls).shards[i]? = some s → s.contents key = some content →
      i = config.route key ∧ (new.after calls).contents key = some content
  step : ∀ calls call, ∃ events,
    MapStep config (new.after calls).contents call ((new.after calls).call call).1 events
        ((new.after calls).call call).2.contents ∧
      ((new.after calls).call call).2.feed = call.publish (new.after calls).feed events
  /-- A value that is found is the one that the last write of its key has stored. -/
  fresh : ∀ calls key now value,
    ((new.after calls).call (.get key now)).1 = .found (some value) →
      ∃ content, LastWrite config key content (new.log calls) ∧
        content.isExpired now = false ∧ content.value = value

/-- A valid configuration makes a cache, and the cache is a map without stale reads. -/
theorem valid_config_refines_map (entropy : Nat → Generator) (hvalid : config.validate = .ok ()) :
    ∃ new, ofConfig config entropy = .ok new ∧ RefinesMap config new := by
  obtain ⟨new, hnew, hsound, hempty⟩ := ofConfig_sound entropy hvalid
  refine ⟨new, hnew, hempty, ?_, ?_, ?_⟩
  · intro calls i s key content hi hget
    have hafter := hsound.after calls
    exact ⟨((hafter.shard i s hi).routed key content hget).1.symm,
      hafter.contents_of_shard hi hget⟩
  · intro calls call
    exact ((hsound.after calls).follows call).step
  · intro calls key now value hfound
    obtain ⟨events, hstep, -⟩ := ((hsound.after calls).follows (.get key now)).step
    rw [hfound] at hstep
    obtain ⟨content, hheld, hlive, hvalue⟩ := hstep.held_of_found
    exact ⟨content, hsound.lastWrite hempty calls hheld, hlive, hvalue⟩

theorem default_config_refines_map :
    ({} : CacheConfig).validate = .ok () ∧
      ∃ new, ofConfig {} (fun _ => .ofSeed 0) = .ok new ∧ RefinesMap {} new :=
  ⟨by decide, valid_config_refines_map (fun _ => .ofSeed 0) (by decide)⟩

end Engine

end LfuCache
