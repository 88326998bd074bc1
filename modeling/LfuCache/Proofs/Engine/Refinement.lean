import Mathlib
import LfuCache.Proofs.Engine.Routing

/-!
# The cache as a map

`MapStep` says what each call does to one map from keys to contents: its answer, the events
that it publishes, and the map after it. Each call of a sound cache is such a step of the
union of its shards.
-/

namespace LfuCache

/-! ## Steps of a map -/

namespace EngineCall

def key? : EngineCall → Option Key
  | .get key _ => some key
  | .set key _ _ _ _ => some key
  | .delete key _ => some key
  | .clear | .cleanup _ _ | .learn _ => none

def publish (call : EngineCall) (feed : Feed) (events : List Event) : Feed :=
  match call with
  | .learn other => other
  | _ => feed.pushAll events

end EngineCall

def Content.written (config : CacheConfig) (key : Key) (value : ByteArray) (cost : Option Nat)
    (ttl : Option Duration) (now : Instant) : Content where
  value
  cost := Engine.effectiveCost key value cost
  hash := keyHash key
  expiresAt := expiryAfter (ttl.or config.defaultTtl) now

open Content in
/-- A call on a map: the answer, the events and the map that it leaves. -/
inductive MapStep (config : CacheConfig) (m : Contents) :
    EngineCall → EngineAnswer → List Event → Contents → Prop where
  | emptyKey {call : EngineCall} : call.key? = some [] →
    MapStep config m call (.failed (.invalidKey "key cannot be empty")) [] m
  | found {key : Key} {now : Instant} : key ≠ [] →
    MapStep config m (.get key now) (.found ((live now (m key)).map (·.value)))
      (.access (keyHash key) :: (((stale now (m key)).map (report .expired)).map .removal).toList)
      (Function.update m key (live now (m key)))
  | tooLarge {key : Key} {value : ByteArray} {cost : Option Nat} {ttl : Option Duration}
    {now : Instant} : key ≠ [] → config.limit key < Engine.effectiveCost key value cost →
    MapStep config m (.set key value cost ttl now)
      (.failed (.valueTooLarge (Engine.effectiveCost key value cost) (config.limit key))) [] m
  /-- Nothing is left under the key, and nothing else changes. -/
  | refused {key : Key} {value : ByteArray} {cost : Option Nat} {ttl : Option Duration}
    {now : Instant} : key ≠ [] → Engine.effectiveCost key value cost ≤ config.limit key →
    MapStep config m (.set key value cost ttl now) (.wrote false)
      (.access (keyHash key) :: ((m key).map (report .expired)).toList.map .removal)
      (Function.update m key none)
  /-- Others may be evicted, the key never. Each eviction is reported. -/
  | stored {key : Key} {value : ByteArray} {cost : Option Nat} {ttl : Option Duration}
    {now : Instant} {evicted : List Key} {removals : List Removal} : key ≠ [] →
    Engine.effectiveCost key value cost ≤ config.limit key → key ∉ evicted →
    m.Reports .evicted evicted removals →
    MapStep config m (.set key value cost ttl now) (.wrote true)
      (.access (keyHash key) ::
        (((stale now (m key)).map (report .expired)).toList ++ removals).map .removal)
      (Function.update (m.without evicted) key (some (written config key value cost ttl now)))
  | deleted {key : Key} {now : Instant} : key ≠ [] →
    MapStep config m (.delete key now) (.deleted (live now (m key)).isSome)
      ((((m key).map fun c => c.report (c.deletionCause now)).map .removal).toList)
      (Function.update m key none)
  | cleared : MapStep config m .clear .cleared [] fun _ => none
  /-- All keys that are over go, and no others. -/
  | swept {orders : Nat → SweepOrder} {now : Instant} {keys : List Key}
    {removals : List Removal} : (∀ key, key ∈ keys ↔ (stale now (m key)).isSome) →
    m.Reports .expired keys removals →
    MapStep config m (.cleanup orders now) (.swept keys.length) (removals.map .removal)
      fun key => live now (m key)
  | learned {feed : Feed} : MapStep config m (.learn feed) .learned [] m

namespace Engine

variable {config : CacheConfig} {e : Engine} {key : Key}

structure Follows (config : CacheConfig) (e : Engine) (call : EngineCall) : Prop where
  sound : (e.call call).2.Sound config
  step : ∃ events, MapStep config e.contents call (e.call call).1 events (e.call call).2.contents ∧
    (e.call call).2.feed = call.publish e.feed events

theorem Follows.of_call {call : EngineCall} {answer : EngineAnswer} {next : Engine}
    (events : List Event) (hcall : e.call call = (answer, next)) (hsound : next.Sound config)
    (hfeed : next.feed = call.publish e.feed events)
    (hstep : MapStep config e.contents call answer events next.contents) :
    Follows config e call where
  sound := by
    rw [hcall]
    exact hsound
  step := by
    rw [hcall]
    exact ⟨events, hstep, hfeed⟩

theorem checkKey_of_ne (hkey : key ≠ []) : checkKey key = .ok () := by
  simp [checkKey, hkey]

theorem follows_of_emptyKey (h : e.Sound config) {call : EngineCall} (hcall : call.key? = some []) :
    Follows config e call := by
  have hfails : e.call call = (.failed (.invalidKey "key cannot be empty"), e) := by
    cases call with
    | get key now =>
      obtain rfl : key = [] := Option.some.inj hcall
      rfl
    | set key value cost ttl now =>
      obtain rfl : key = [] := Option.some.inj hcall
      rfl
    | delete key now =>
      obtain rfl : key = [] := Option.some.inj hcall
      rfl
    | clear => exact absurd hcall (by simp [EngineCall.key?])
    | cleanup => exact absurd hcall (by simp [EngineCall.key?])
    | learn => exact absurd hcall (by simp [EngineCall.key?])
  refine .of_call [] hfails h ?_ (.emptyKey hcall)
  cases call with
  | learn => exact absurd hcall (by simp [EngineCall.key?])
  | _ => rfl

/-! ## Calls on one key -/

theorem Sound.replace (h : e.Sound config) {t : Shard} {evicted : List Key}
    {content : Option Content} (hchanges : Shard.Changes (e.shardOf (keyHash key)) t)
    (hcontents : t.contents =
      Function.update ((e.shardOf (keyHash key)).contents.without evicted) key content)
    (hevicted : ∀ other ∈ evicted, (e.shardOf (keyHash key)).contents other ≠ none)
    (hnew : ∀ c, content = some c → c.hash = keyHash key) (events : List Event) :
    ((e.setShard (keyHash key) t).publish events).Sound config ∧
      ((e.setShard (keyHash key) t).publish events).contents =
        Function.update (e.contents.without evicted) key content := by
  have ht : t.At config (config.route key) :=
    (h.shardOf_at key).update (Shard.SameSettings.of_changes hchanges).capacity hcontents
      fun c hc => ⟨rfl, hnew c hc⟩
  exact ⟨(h.setShard ht).publish events, h.contents_setShard ht hevicted hcontents⟩

theorem Sound.replace_one (h : e.Sound config) {t : Shard} {content : Option Content}
    (hchanges : Shard.Changes (e.shardOf (keyHash key)) t)
    (hcontents : t.contents = Function.update (e.shardOf (keyHash key)).contents key content)
    (hnew : ∀ c, content = some c → c.hash = keyHash key) (events : List Event) :
    ((e.setShard (keyHash key) t).publish events).Sound config ∧
      ((e.setShard (keyHash key) t).publish events).contents =
        Function.update e.contents key content := by
  have hnone : t.contents =
      Function.update ((e.shardOf (keyHash key)).contents.without []) key content := by
    rw [Contents.without_nil, hcontents]
  have hreplace := h.replace hchanges hnone (by simp) hnew events
  rwa [Contents.without_nil] at hreplace

theorem call_get (hkey : key ≠ []) {now : Instant} {answer : Lookup × Shard}
    (hget : (e.shardOf (keyHash key)).get e.frequencyOf key now = answer) :
    e.call (.get key now) =
      (.found answer.1.value, (e.setShard (keyHash key) answer.2).publish
        (.access (keyHash key) :: (answer.1.expired.map Event.removal).toList)) := by
  subst hget
  simp only [call, get, checkKey_of_ne hkey]
  rfl

theorem follows_get (h : e.Sound config) (hkey : key ≠ []) (now : Instant) :
    Follows config e (.get key now) := by
  obtain ⟨hvalue, hexpired, hcontents⟩ :=
    (e.shardOf (keyHash key)).get_contents e.frequencyOf key now
  have hchanges := ((e.shardOf (keyHash key)).easings_get e.frequencyOf key now).changes
  generalize hget : (e.shardOf (keyHash key)).get e.frequencyOf key now = answer at *
  have hcall := call_get hkey hget
  obtain ⟨hsound, hmap⟩ := h.replace_one hchanges hcontents
    (fun c hc => ((h.shardOf_at key).routed key c (Content.eq_some_of_live hc)).2)
    (.access (keyHash key) :: (answer.1.expired.map Event.removal).toList)
  rw [← h.contents_eq] at hvalue hexpired hmap
  refine .of_call _ hcall hsound rfl ?_
  rw [hmap, hvalue, hexpired]
  exact .found hkey

theorem call_delete (hkey : key ≠ []) {now : Instant} {answer : Option Removal × Shard}
    (hdelete : (e.shardOf (keyHash key)).delete key now = answer) :
    e.call (.delete key now) =
      (.deleted (answer.1.any (·.cause = .deleted)),
        (e.setShard (keyHash key) answer.2).publish (answer.1.map Event.removal).toList) := by
  subst hdelete
  simp only [call, delete, checkKey_of_ne hkey]
  rfl

theorem follows_delete (h : e.Sound config) (hkey : key ≠ []) (now : Instant) :
    Follows config e (.delete key now) := by
  obtain ⟨hremoval, hcontents⟩ := (e.shardOf (keyHash key)).delete_contents key now
  have hchanges := ((e.shardOf (keyHash key)).easings_delete key now).changes
  generalize hdelete : (e.shardOf (keyHash key)).delete key now = answer at *
  have hcall := call_delete hkey hdelete
  obtain ⟨hsound, hmap⟩ := h.replace_one hchanges hcontents (by simp)
    (answer.1.map Event.removal).toList
  rw [← h.contents_eq] at hremoval
  have hanswer : answer.1.any (·.cause = .deleted) =
      (Content.live now (e.contents key)).isSome := by
    rw [hremoval]
    cases e.contents key with
    | none => rfl
    | some c =>
      cases hexpired : c.isExpired now <;>
        simp [Content.live, Content.report, Content.deletionCause, hexpired]
  refine .of_call _ hcall hsound rfl ?_
  rw [hmap, hanswer, hremoval]
  exact .deleted hkey

def shardSet (e : Engine) (key : Key) (value : ByteArray) (cost : Option Nat)
    (ttl : Option Duration) (now : Instant) : Except CacheError (SetResult × Shard) :=
  (e.shardOf (keyHash key)).set e.frequencyOf key (keyHash key) value (effectiveCost key value cost)
    (expiryAfter (ttl.or e.config.defaultTtl) now) now

section Writes

variable {value : ByteArray} {cost : Option Nat} {ttl : Option Duration} {now : Instant}

theorem call_set_of_ok (hkey : key ≠ []) {result : SetResult} {t : Shard}
    (hset : e.shardSet key value cost ttl now = .ok (result, t)) :
    e.call (.set key value cost ttl now) =
      (.wrote result.admitted, (e.setShard (keyHash key) t).publish
        (.access (keyHash key) :: result.removed.map .removal)) := by
  unfold shardSet at hset
  simp only [call, set, checkKey_of_ne hkey, bind, Except.bind, hset]
  rfl

theorem call_set_of_error (hkey : key ≠ []) {error : CacheError}
    (hset : e.shardSet key value cost ttl now = .error error) :
    e.call (.set key value cost ttl now) = (.failed error, e) := by
  unfold shardSet at hset
  simp only [call, set, checkKey_of_ne hkey, bind, Except.bind, hset]

theorem follows_set (h : e.Sound config) (hkey : key ≠ []) (value : ByteArray) (cost : Option Nat)
    (ttl : Option Duration) (now : Instant) : Follows config e (.set key value cost ttl now) := by
  have hat := h.shardOf_at key
  have hlimit : (e.shardOf (keyHash key)).capacity = config.limit key := hat.capacity_eq
  have hsets := (e.shardOf (keyHash key)).set_sets e.frequencyOf key (keyHash key) value
    (effectiveCost key value cost) (expiryAfter (ttl.or e.config.defaultTtl) now) now
  cases hset : e.shardSet key value cost ttl now with
  | error error =>
    have hcall := call_set_of_error hkey hset
    unfold shardSet at hset
    rw [hset] at hsets
    cases hsets with
    | tooLarge hlarge =>
      rw [hlimit] at hlarge hcall
      exact .of_call [] hcall h rfl (.tooLarge hkey hlarge)
  | ok answer =>
    obtain ⟨result, t⟩ := answer
    have hcall := call_set_of_ok hkey hset
    unfold shardSet at hset
    have hchanges := Shard.changes_set hset
    have hfits : effectiveCost key value cost ≤ config.limit key := by
      rw [← hlimit]
      exact Shard.cost_le_of_set hset
    cases hadmitted : result.admitted with
    | false =>
      obtain ⟨hremoved, hcontents⟩ := Shard.set_contents_of_refused hset hadmitted
      obtain ⟨hsound, hmap⟩ := h.replace_one hchanges hcontents (by simp)
        (.access (keyHash key) :: result.removed.map .removal)
      rw [← h.contents_eq] at hremoved
      rw [hadmitted] at hcall
      refine .of_call _ hcall hsound rfl ?_
      rw [hmap, hremoved]
      exact .refused hkey hfits
    | true =>
      obtain ⟨evicted, removals, hnot, hreports, hremoved, hcontents⟩ :=
        Shard.set_contents_of_admitted (fun c hc => (hat.routed key c hc).2) hset hadmitted
      obtain ⟨hsound, hmap⟩ := h.replace hchanges hcontents (fun _ hother => hreports.holds hother)
        (by simp) (.access (keyHash key) :: result.removed.map .removal)
      have hreported : e.contents.Reports .evicted evicted removals := by
        apply hreports.congr
        intro other hother
        exact h.contents_of_holds (h.getElem?_route key) (hreports.holds hother)
      rw [← h.contents_eq] at hremoved
      rw [hadmitted] at hcall
      refine .of_call _ hcall hsound rfl ?_
      rw [hmap, hremoved, h.config_eq]
      exact .stored hkey hfits hnot hreported

end Writes

/-! ## Calls on all shards -/

theorem follows_clear (h : e.Sound config) : Follows config e .clear := by
  have hshards : e.clear.shards = e.shards.mapIdx fun _ s => s.clear.2 := by
    ext i : 1
    · simp [clear, mapShards]
    · simp [clear, mapShards]
  obtain ⟨hsound, hcontents⟩ := h.each e.clear rfl hshards fun i s hs =>
    ⟨hs.capacity_eq, fun key content hkey => by
      rw [Shard.clear_contents] at hkey
      exact absurd hkey (by simp)⟩
  have hempty : e.clear.contents = fun _ => none := by
    funext key
    rw [hcontents, Shard.clear_contents]
  refine .of_call [] rfl hsound rfl ?_
  rw [hempty]
  exact .cleared

def sweptKeys (e : Engine) (orders : Nat → SweepOrder) (now : Instant) : List Key :=
  e.shards.toList.zipIdx.flatMap fun x => (orders x.2).arrange (x.1.expiredKeys now)

def sweptRemovals (e : Engine) (orders : Nat → SweepOrder) (now : Instant) : List Removal :=
  e.shards.toList.zipIdx.flatMap fun x => (x.1.removeExpiredIn (orders x.2) now).1

theorem cleanupIn_fst (e : Engine) (orders : Nat → SweepOrder) (now : Instant) :
    ((e.shards.mapIdx fun i s => s.removeExpiredIn (orders i) now).toList.flatMap fun x => x.1) =
      e.sweptRemovals orders now := by
  rw [sweptRemovals, Array.toList_mapIdx, List.mapIdx_eq_zipIdx_map, List.flatMap_map]

theorem getElem?_of_mem_zipIdx {x : Shard × Nat} (hx : x ∈ e.shards.toList.zipIdx) :
    e.shards[x.2]? = some x.1 := by
  rw [← Array.getElem?_toList]
  exact List.mem_zipIdx_iff_getElem?.mp hx

theorem mem_sweptKeys (h : e.Sound config) (orders : Nat → SweepOrder) (now : Instant) (key : Key) :
    key ∈ e.sweptKeys orders now ↔ (Content.stale now (e.contents key)).isSome := by
  rw [sweptKeys, List.mem_flatMap]
  constructor
  · rintro ⟨x, hx, hkey⟩
    rw [(x.1.sweep_contents (orders x.2) now).1] at hkey
    have hholds : x.1.contents key ≠ none := by
      intro hnone
      rw [hnone] at hkey
      exact absurd hkey (by simp)
    rwa [h.contents_of_holds (getElem?_of_mem_zipIdx hx) hholds]
  · intro hstale
    rw [h.contents_eq] at hstale
    refine ⟨(e.shardOf (keyHash key), config.route key), ?_, ?_⟩
    · rw [List.mem_zipIdx_iff_getElem?, Array.getElem?_toList]
      exact h.getElem?_route key
    · exact ((Shard.sweep_contents _ _ now).1 key).mpr hstale

theorem reports_swept (h : e.Sound config) (orders : Nat → SweepOrder) (now : Instant) :
    e.contents.Reports .expired (e.sweptKeys orders now) (e.sweptRemovals orders now) := by
  have hreports : ∀ x : Shard × Nat, x.1.contents.Reports .expired
      ((orders x.2).arrange (x.1.expiredKeys now)) (x.1.removeExpiredIn (orders x.2) now).1 :=
    fun x => (x.1.sweep_contents (orders x.2) now).2.1
  apply Contents.Reports.flatMap
  · intro x hx
    apply (hreports x).congr
    intro key hkey
    exact h.contents_of_holds (getElem?_of_mem_zipIdx hx) ((hreports x).holds hkey)
  · -- Two shards have no key in common, since each key has one route.
    rw [List.pairwise_iff_getElem]
    intro i j hi hj hij key hfirst hsecond
    have hroute : ∀ (n : Nat) (hn : n < e.shards.toList.zipIdx.length),
        key ∈ (orders (e.shards.toList.zipIdx[n]).2).arrange
          ((e.shards.toList.zipIdx[n]).1.expiredKeys now) → config.route key = n := by
      intro n hn hkey
      have hholds := (hreports _).holds hkey
      by_contra hne
      refine hholds ((h.shard n _ ?_).contents_eq_none hne)
      simp
    have hsame := (hroute i hi hfirst).symm.trans (hroute j hj hsecond)
    omega

theorem follows_cleanup (h : e.Sound config) (orders : Nat → SweepOrder) (now : Instant) :
    Follows config e (.cleanup orders now) := by
  have hcount : (e.sweptRemovals orders now).length = (e.sweptKeys orders now).length := by
    have hlength := congrArg List.length (reports_swept h orders now).reported
    simpa using hlength.symm
  have hshards : (e.cleanupIn orders now).2.shards =
      e.shards.mapIdx fun i s => (s.removeExpiredIn (orders i) now).2 := by
    ext i : 1
    · simp [cleanupIn, publish]
    · simp [cleanupIn, publish]
  obtain ⟨hsound, hcontents⟩ := h.each (e.cleanupIn orders now).2 rfl hshards fun i s hs => by
    have hsettings := Shard.SameSettings.of_changes
      (Shard.changes_removeAll .expired ((orders i).arrange (s.expiredKeys now)) s)
    refine ⟨hsettings.capacity.trans hs.capacity_eq, fun key content hkey => ?_⟩
    rw [(s.sweep_contents (orders i) now).2.2] at hkey
    exact hs.routed key content (Content.eq_some_of_live hkey)
  have hlive : (e.cleanupIn orders now).2.contents =
      fun key => Content.live now (e.contents key) := by
    funext key
    rw [hcontents, (Shard.sweep_contents _ _ now).2.2, h.contents_eq]
  have hcall : e.call (.cleanup orders now) =
      (.swept (e.sweptKeys orders now).length, (e.cleanupIn orders now).2) := by
    simp only [call, cleanupIn, cleanupIn_fst, hcount]
  refine .of_call ((e.sweptRemovals orders now).map .removal) hcall hsound ?_ ?_
  · simp only [cleanupIn, cleanupIn_fst]
    rfl
  · rw [hlive]
    exact .swept (mem_sweptKeys h orders now) (reports_swept h orders now)

/-- Each call of a sound cache is a step of the map, and keeps the cache sound. -/
theorem Sound.follows (h : e.Sound config) (call : EngineCall) : Follows config e call := by
  cases call with
  | get key now =>
    by_cases hkey : key = []
    · exact follows_of_emptyKey h (by rw [hkey]; rfl)
    · exact follows_get h hkey now
  | set key value cost ttl now =>
    by_cases hkey : key = []
    · exact follows_of_emptyKey h (by rw [hkey]; rfl)
    · exact follows_set h hkey value cost ttl now
  | delete key now =>
    by_cases hkey : key = []
    · exact follows_of_emptyKey h (by rw [hkey]; rfl)
    · exact follows_delete h hkey now
  | clear => exact follows_clear h
  | cleanup orders now => exact follows_cleanup h orders now
  | learn feed => exact .of_call [] rfl ⟨h.config_eq, h.size_eq, h.shard⟩ rfl .learned

end Engine

end LfuCache
