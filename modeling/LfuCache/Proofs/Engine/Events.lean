import Mathlib
import LfuCache.Proofs.Engine.Shards
import LfuCache.Proofs.Feed.Worker

/-!
# What calls publish

The events of a call go to the feed in their order, and nothing else of the feed changes. A
call reads the feed only for the frequencies, so that what it answers, what it does to the
shards and what it publishes hang on the sketch and not on the queue or the worker.
-/

namespace LfuCache

/-! ## A feed that is pushed to -/

theorem Feed.sketch_pushAll (f : Feed) (events : List Event) :
    (f.pushAll events).sketch = f.sketch := by
  induction events generalizing f with
  | nil => rfl
  | cons event events ih =>
    obtain ⟨queue, hpush⟩ := f.push_eq event
    have hrest := ih (f.push event)
    rw [hpush] at hrest
    rw [Feed.pushAll, List.foldl_cons, hpush]
    exact hrest

/-- The hash that a call counts as used. Calls that fail count nothing. -/
def EngineCall.used? : EngineCall → EngineAnswer → Option UInt64
  | .get key _, .found _ => some (keyHash key)
  | .set key _ _ _ _, .wrote _ => some (keyHash key)
  | _, _ => none

namespace Engine

variable {config : CacheConfig} {e f : Engine} {key : Key} {call : EngineCall}

/-- The events of a call, the first one first. -/
def published (e : Engine) : EngineCall → List Event
  | .get key now =>
    if key = [] then []
    else
      let (lookup, _) := (e.shardOf (keyHash key)).get e.frequencyOf key now
      .access (keyHash key) :: (lookup.expired.map Event.removal).toList
  | .set key value cost ttl now =>
    if key = [] then []
    else match e.shardSet key value cost ttl now with
      | .ok (result, _) => .access (keyHash key) :: result.removed.map .removal
      | .error _ => []
  | .delete key now =>
    if key = [] then []
    else (((e.shardOf (keyHash key)).delete key now).1.map Event.removal).toList
  | .cleanup orders now => (e.sweptRemovals orders now).map .removal
  | .clear | .learn _ => []

theorem call_feed (e : Engine) (call : EngineCall) :
    (e.call call).2.feed = call.publish e.feed (e.published call) := by
  cases call with
  | get key now =>
    by_cases hkey : key = []
    · subst hkey
      rfl
    · rw [call_get hkey rfl, published, if_neg hkey]
      rfl
  | set key value cost ttl now =>
    by_cases hkey : key = []
    · subst hkey
      rfl
    · rw [published, if_neg hkey]
      cases hset : e.shardSet key value cost ttl now with
      | error error =>
        rw [call_set_of_error hkey hset]
        rfl
      | ok answer =>
        rw [call_set_of_ok hkey hset]
        rfl
  | delete key now =>
    by_cases hkey : key = []
    · subst hkey
      rfl
    · rw [call_delete hkey rfl, published, if_neg hkey]
      rfl
  | clear => rfl
  | cleanup orders now =>
    simp only [Engine.call, cleanupIn, cleanupIn_fst]
    rfl
  | learn feed => rfl

theorem frequencyOf_call (hcall : ∀ feed, call ≠ .learn feed) (e : Engine) :
    (e.call call).2.frequencyOf = e.frequencyOf := by
  have hpublish : call.publish e.feed (e.published call) = e.feed.pushAll (e.published call) := by
    cases call with
    | learn feed => exact absurd rfl (hcall feed)
    | _ => rfl
  funext hash
  rw [frequencyOf, call_feed, hpublish, Feed.sketch_pushAll]
  rfl

theorem hashes_published (e : Engine) (call : EngineCall) :
    (e.published call).filterMap Event.hash? = (call.used? (e.call call).1).toList := by
  have hremovals : ∀ removals : List Removal,
      (removals.map Event.removal).filterMap Event.hash? = [] := by
    intro removals
    rw [List.filterMap_map]
    exact List.filterMap_eq_nil_iff.mpr fun _ _ => rfl
  have hremoval : ∀ removal : Option Removal,
      (removal.map Event.removal).toList.filterMap Event.hash? = [] := by
    intro removal
    cases removal <;> rfl
  cases call with
  | get key now =>
    by_cases hkey : key = []
    · subst hkey
      rfl
    · rw [call_get hkey rfl, published, if_neg hkey]
      simp only [List.filterMap_cons_some (show Event.hash? (.access _) = some _ from rfl),
        hremoval]
      rfl
  | set key value cost ttl now =>
    by_cases hkey : key = []
    · subst hkey
      rfl
    · rw [published, if_neg hkey]
      cases hset : e.shardSet key value cost ttl now with
      | error error =>
        rw [call_set_of_error hkey hset]
        rfl
      | ok answer =>
        rw [call_set_of_ok hkey hset]
        simp only [List.filterMap_cons_some (show Event.hash? (.access _) = some _ from rfl),
          hremovals]
        rfl
  | delete key now =>
    rw [published]
    split
    · cases (e.call (.delete key now)).1 <;> rfl
    · rw [hremoval]
      cases (e.call (.delete key now)).1 <;> rfl
  | clear => rfl
  | cleanup orders now =>
    rw [published, hremovals]
    rfl
  | learn feed => rfl

/-! ## What a call hangs on -/

theorem answer_congr (hkey : call.key? = some key) (hconfig : f.config = e.config)
    (hfrequency : f.frequencyOf = e.frequencyOf)
    (hshard : f.shardOf (keyHash key) = e.shardOf (keyHash key)) :
    (f.call call).1 = (e.call call).1 ∧ f.published call = e.published call := by
  cases call with
  | get k now =>
    obtain rfl := Option.some.inj hkey
    by_cases hk : k = []
    · subst hk
      exact ⟨rfl, rfl⟩
    · rw [call_get hk rfl, call_get hk rfl, published, published, hshard, hfrequency]
      exact ⟨rfl, rfl⟩
  | set k value cost ttl now =>
    obtain rfl := Option.some.inj hkey
    by_cases hk : k = []
    · subst hk
      exact ⟨rfl, rfl⟩
    · have hsame : f.shardSet k value cost ttl now = e.shardSet k value cost ttl now := by
        rw [shardSet, shardSet, hshard, hfrequency, hconfig]
      rw [published, published, hsame]
      cases hset : e.shardSet k value cost ttl now with
      | error error =>
        rw [call_set_of_error hk hset, call_set_of_error hk (hsame.trans hset)]
        exact ⟨rfl, rfl⟩
      | ok answer =>
        rw [call_set_of_ok hk hset, call_set_of_ok hk (hsame.trans hset)]
        exact ⟨rfl, rfl⟩
  | delete k now =>
    obtain rfl := Option.some.inj hkey
    by_cases hk : k = []
    · subst hk
      exact ⟨rfl, rfl⟩
    · rw [call_delete hk rfl, call_delete hk rfl, published, published, hshard]
      exact ⟨rfl, rfl⟩
  | clear => simp [EngineCall.key?] at hkey
  | cleanup => simp [EngineCall.key?] at hkey
  | learn => simp [EngineCall.key?] at hkey

theorem asked_congr (hconfig : f.config = e.config) (hfrequency : f.frequencyOf = e.frequencyOf)
    (hsize : f.shards.size = e.shards.size) (i : Nat) (call : EngineCall) :
    f.asked i call = e.asked i call := by
  have hindex : ∀ hash, f.indexOf hash = e.indexOf hash := by
    intro hash
    rw [indexOf, indexOf, hsize]
  cases call <;> simp only [asked, hindex, hfrequency, hconfig]

/-- Neither the queue nor the worker has a say in what a call answers or does to the shards. -/
theorem call_congr (hconfig : f.config = e.config) (hshards : f.shards = e.shards)
    (hsketch : f.feed.sketch = e.feed.sketch) (call : EngineCall) :
    (f.call call).1 = (e.call call).1 ∧ (f.call call).2.shards = (e.call call).2.shards := by
  have hfrequency : f.frequencyOf = e.frequencyOf := by
    funext hash
    rw [frequencyOf, frequencyOf, hsketch]
  constructor
  · have hshard : ∀ hash, f.shardOf hash = e.shardOf hash := by
      intro hash
      have hlookup : f.shards[f.indexOf hash]? = e.shards[e.indexOf hash]? := by
        rw [indexOf, indexOf, hshards]
      rw [Array.getElem?_eq_getElem (f.indexOf_lt hash),
        Array.getElem?_eq_getElem (e.indexOf_lt hash)] at hlookup
      exact Option.some.inj hlookup
    cases hkey : call.key? with
    | some key => exact (answer_congr hkey hconfig hfrequency (hshard _)).1
    | none =>
      cases call with
      | cleanup orders now => simp only [Engine.call, cleanupIn, hshards]
      | clear => rfl
      | learn feed => rfl
      | _ => exact absurd hkey (by simp [EngineCall.key?])
  · apply Array.ext_getElem?
    intro i
    rw [getElem?_call, getElem?_call,
      asked_congr hconfig hfrequency (congrArg Array.size hshards), hshards]

end Engine

end LfuCache
