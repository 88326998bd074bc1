import Mathlib
import LfuCache.Proofs.Engine.Ample
import LfuCache.Proofs.Engine.Events
import LfuCache.Proofs.Shard.Sweeps

/-!
# Sweeps and lazy expiry

An entry that is over is dropped by a sweep, or by the next call that comes across it. Nobody
can tell the two apart: a sweep takes out what is over and nothing else, and reads and deletes
answer and count afterwards as they would have done without it.
-/

namespace LfuCache

variable {config : CacheConfig} {now t : Instant}

/-! ## Expiry -/

theorem expiredAt_expiryAfter {ttl : Option Duration} {written : Instant} :
    expiredAt (expiryAfter ttl written) now = true ↔
      ∃ d, ttl = some d ∧ written + d ≤ lastInstant ∧ written + d ≤ now := by
  cases ttl with
  | none => simp [expiryAfter, expiredAt]
  | some d =>
    by_cases hlast : written + d ≤ lastInstant <;> simp [expiryAfter, expiredAt, hlast]

namespace Content

theorem isExpired_later {c : Content} (hexpired : c.isExpired now = true) (hle : now ≤ t) :
    c.isExpired t = true := by
  unfold isExpired expiredAt at *
  cases hexpiry : c.expiresAt with
  | none => simp [hexpiry] at hexpired
  | some limit =>
    rw [hexpiry, decide_eq_true_eq] at hexpired
    exact decide_eq_true (hexpired.trans hle)

theorem live_live (hle : now ≤ t) (content : Option Content) :
    live t (live now content) = live t content := by
  cases content with
  | none => rfl
  | some c =>
    cases hexpired : c.isExpired now with
    | true =>
      rw [(split_of_expired hexpired).1, (split_of_expired (isExpired_later hexpired hle)).1]
      rfl
    | false => rw [(split_of_unexpired hexpired).1]

end Content

/-! ## Reads and deletes -/

/-- The time of a read or a delete. -/
def EngineCall.lookupTime? : EngineCall → Option Instant
  | .get _ now => some now
  | .delete _ now => some now
  | _ => none

theorem MapStep.lookup {m n p q : Contents} {call : EngineCall} {answer other : EngineAnswer}
    {events otherEvents : List Event} (hcall : call.lookupTime? = some now)
    (h : MapStep config m call answer events n) (hother : MapStep config p call other otherEvents q)
    (hlive : ∀ key, Content.live now (m key) = Content.live now (p key)) :
    answer = other ∧ ∀ key, Content.live now (n key) = Content.live now (q key) := by
  cases h with
  | emptyKey hkey =>
    cases hother with
    | emptyKey => exact ⟨rfl, hlive⟩
    | found hne => exact absurd (Option.some.inj hkey) hne
    | deleted hne => exact absurd (Option.some.inj hkey) hne
    | tooLarge | refused | stored => simp [EngineCall.lookupTime?] at hcall
    | cleared | swept | learned => simp [EngineCall.lookupTime?] at hcall
  | @found key _ hne =>
    obtain rfl := Option.some.inj hcall
    cases hother with
    | emptyKey hkey => exact absurd (Option.some.inj hkey) hne
    | found =>
      refine ⟨by rw [hlive], fun k => ?_⟩
      rw [Function.update_apply, Function.update_apply, hlive]
      split
      · rfl
      · exact hlive k
  | @deleted key _ hne =>
    obtain rfl := Option.some.inj hcall
    cases hother with
    | emptyKey hkey => exact absurd (Option.some.inj hkey) hne
    | deleted =>
      refine ⟨by rw [hlive], fun k => ?_⟩
      rw [Function.update_apply, Function.update_apply]
      split
      · rfl
      · exact hlive k
  | tooLarge | refused | stored => simp [EngineCall.lookupTime?] at hcall
  | cleared | swept | learned => simp [EngineCall.lookupTime?] at hcall

theorem Shard.count_removals_of_read {outcome : Outcome} (hread : outcome = .hit ∨ outcome = .miss)
    (removals : List Removal) : (countedRemovals removals).count outcome = 0 := by
  rw [count_countedRemovals]
  rcases hread with rfl | rfl
  · exact countP_removals_eq_zero (by decide) (by decide) removals
  · exact countP_removals_eq_zero (by decide) (by decide) removals

namespace Engine

variable {e f : Engine} {lookup : EngineCall} {outcome : Outcome}

/-- Each shard is the one of its place, with its accounts in order. -/
structure Healthy (config : CacheConfig) (e : Engine) : Prop where
  sound : e.Sound config
  accounted : ∀ (i : Nat) (s : Shard), e.shards[i]? = some s → s.Accounted

namespace Healthy

theorem call (h : e.Healthy config) (call : EngineCall) : (e.call call).2.Healthy config where
  sound := (h.sound.follows call).sound
  accounted := accounted_call h.accounted call

theorem after (h : e.Healthy config) (calls : List EngineCall) : (e.after calls).Healthy config := by
  induction calls generalizing e with
  | nil => exact h
  | cons first calls ih => exact ih (h.call first)

theorem shardOf_accounted (h : e.Healthy config) (key : Key) : (e.shardOf (keyHash key)).Accounted :=
  h.accounted _ _ (h.sound.getElem?_route key)

theorem total_lookup (h : e.Healthy config) (hlookup : lookup.lookupTime? = some now)
    (hread : outcome = .hit ∨ outcome = .miss) :
    (e.call lookup).2.total (·.counters.of outcome) =
      e.total (·.counters.of outcome) + (e.call lookup).1.outcome?.toList.count outcome := by
  cases lookup with
  | get key t =>
    by_cases hkey : key = []
    · subst hkey
      rfl
    · have hbooked := Shard.booked_get (h.shardOf_accounted key) e.frequencyOf key t
      rw [call_get hkey rfl, (total_replaced hbooked _).1, Shard.count_removals_of_read hread]
      rfl
  | delete key t =>
    by_cases hkey : key = []
    · subst hkey
      rfl
    · have hbooked := Shard.booked_delete (h.shardOf_accounted key) key t
      rw [call_delete hkey rfl, (total_replaced hbooked _).1, Shard.count_removals_of_read hread]
      rfl
  | _ => simp [EngineCall.lookupTime?] at hlookup

theorem total_cleanup (h : e.Healthy config) (orders : Nat → SweepOrder) (now : Instant)
    (hread : outcome = .hit ∨ outcome = .miss) :
    (e.call (.cleanup orders now)).2.total (·.counters.of outcome) =
      e.total (·.counters.of outcome) := by
  apply total_congr
  intro i
  rw [getElem?_call, Option.map_map]
  apply Option.map_congr
  intro s hs
  have hbooked := Shard.Booked.removeAll (h.accounted i s hs) .expired
    ((orders i).arrange (s.expiredKeys now))
  have hcounters := hbooked.counters_eq outcome
  rw [Shard.count_removals_of_read hread] at hcounters
  exact hcounters

end Healthy

/-! ## Two caches that agree -/

/-- The same reads and deletes, at times from `now` on that do not go back. In each of the two
runs the worker may move on in its own way. -/
inductive SameLookups : Instant → List EngineCall → List EngineCall → Prop where
  | done (now : Instant) : SameLookups now [] []
  | lookup {now later : Instant} {call : EngineCall} {run other : List EngineCall} :
    call.lookupTime? = some later → now ≤ later → SameLookups later run other →
    SameLookups now (call :: run) (call :: other)
  | learn {now : Instant} {run other : List EngineCall} (feed : Feed) :
    SameLookups now run other → SameLookups now (.learn feed :: run) other
  | learnOther {now : Instant} {run other : List EngineCall} (feed : Feed) :
    SameLookups now run other → SameLookups now run (.learn feed :: other)

/-- Both hold the same, but for what is over, and have counted the same hits and misses. -/
structure Agree (config : CacheConfig) (now : Instant) (e f : Engine) : Prop where
  left : e.Healthy config
  right : f.Healthy config
  live : ∀ key, Content.live now (e.contents key) = Content.live now (f.contents key)
  counters : ∀ outcome, outcome = .hit ∨ outcome = .miss →
    e.total (·.counters.of outcome) = f.total (·.counters.of outcome)

namespace Agree

theorem later (h : Agree config now e f) (hle : now ≤ t) : Agree config t e f := by
  refine ⟨h.left, h.right, fun key => ?_, h.counters⟩
  rw [← Content.live_live hle, h.live, Content.live_live hle]

theorem step (h : Agree config now e f) (hlookup : lookup.lookupTime? = some now) :
    (e.call lookup).1 = (f.call lookup).1 ∧
      Agree config now (e.call lookup).2 (f.call lookup).2 := by
  obtain ⟨events, hstep, -⟩ := (h.left.sound.follows lookup).step
  obtain ⟨otherEvents, hother, -⟩ := (h.right.sound.follows lookup).step
  obtain ⟨hanswer, hlive⟩ := hstep.lookup hlookup hother h.live
  refine ⟨hanswer, h.left.call lookup, h.right.call lookup, hlive, fun outcome hread => ?_⟩
  rw [h.left.total_lookup hlookup hread, h.right.total_lookup hlookup hread,
    h.counters outcome hread, hanswer]

theorem learn (h : Agree config now e f) (feed : Feed) :
    Agree config now { e with feed } f ∧ Agree config now e { f with feed } :=
  ⟨⟨h.left.call (.learn feed), h.right, h.live, h.counters⟩,
    ⟨h.left, h.right.call (.learn feed), h.live, h.counters⟩⟩

theorem run {run other : List EngineCall} (h : Agree config now e f)
    (hsame : SameLookups now run other) :
    e.answers run = f.answers other ∧
      (e.after run).stats.hits = (f.after other).stats.hits ∧
      (e.after run).stats.misses = (f.after other).stats.misses := by
  induction hsame generalizing e f with
  | done now =>
    refine ⟨rfl, ?_, ?_⟩
    all_goals rw [stats_eq, stats_eq]
    · exact h.counters .hit (.inl rfl)
    · exact h.counters .miss (.inr rfl)
  | @lookup now later call run other hcall hle _ ih =>
    obtain ⟨hanswer, hnext⟩ := (h.later hle).step hcall
    obtain ⟨hanswers, hcounters⟩ := ih hnext
    refine ⟨?_, hcounters⟩
    have hheard : ∀ answer, heard (call, answer) = some answer := by
      intro answer
      cases call with
      | learn => simp [EngineCall.lookupTime?] at hcall
      | _ => rfl
    rw [answers, answers, log, log, List.filterMap_cons_some (hheard _),
      List.filterMap_cons_some (hheard _), hanswer]
    exact congrArg _ hanswers
  | learn feed _ ih => exact ih (h.learn feed).1
  | learnOther feed _ ih => exact ih (h.learn feed).2

end Agree

theorem Healthy.agree_cleanup (h : e.Healthy config) (orders : Nat → SweepOrder) (now : Instant) :
    Agree config now (e.call (.cleanup orders now)).2 e where
  left := h.call _
  right := h
  live key := by
    obtain ⟨events, hstep, -⟩ := (h.sound.follows (.cleanup orders now)).step
    generalize (e.call (.cleanup orders now)).1 = answer at hstep
    generalize (e.call (.cleanup orders now)).2.contents = n at hstep
    cases hstep with
    | emptyKey hkey => simp [EngineCall.key?] at hkey
    | swept => exact Content.live_live le_rfl _
  counters outcome hread := h.total_cleanup orders now hread

/-! ## A sweep of all shards -/

theorem getElem?_swept (e : Engine) (orders : Nat → SweepOrder) (now : Instant) (i : Nat) :
    (e.call (.cleanup orders now)).2.shards[i]? =
      (e.shards[i]?).map fun s => (s.removeExpiredIn (orders i) now).2 :=
  e.getElem?_call (.cleanup orders now) i

theorem answer_cleanup (e : Engine) (orders : Nat → SweepOrder) (now : Instant) :
    (e.call (.cleanup orders now)).1 = .swept (e.sweptRemovals orders now).length := by
  simp only [Engine.call, cleanupIn, cleanupIn_fst]

theorem eq_of_parts (hconfig : e.config = f.config) (hshards : e.shards = f.shards)
    (hfeed : e.feed = f.feed) : e = f := by
  cases e
  cases f
  simp_all

theorem call_cleanup_swept (e : Engine) (orders again : Nat → SweepOrder) (now : Instant) :
    let swept := (e.call (.cleanup orders now)).2
    swept.call (.cleanup again now) = (.swept 0, swept) := by
  intro swept
  have hremovals : swept.sweptRemovals again now = [] := by
    rw [sweptRemovals, List.flatMap_eq_nil_iff]
    intro x hx
    have hshard := getElem?_of_mem_zipIdx hx
    rw [getElem?_swept] at hshard
    obtain ⟨s, -, hs⟩ := Option.map_eq_some_iff.mp hshard
    rw [← hs, Shard.sweep_swept]
  have hshards : (swept.call (.cleanup again now)).2.shards = swept.shards := by
    apply Array.ext_getElem?
    intro i
    rw [getElem?_swept, getElem?_swept, Option.map_map]
    congr 1
    funext s
    simp only [Function.comp_apply, Shard.sweep_swept]
  have hfeed : (swept.call (.cleanup again now)).2.feed = swept.feed := by
    rw [call_feed, published, hremovals]
    rfl
  refine Prod.ext ?_ (eq_of_parts rfl hshards hfeed)
  rw [answer_cleanup, hremovals]
  rfl

theorem Sound.reported_sweep (h : e.Sound config) (orders : Nat → SweepOrder) (now : Instant) :
    ∃ keys removals, (∀ key, key ∈ keys ↔ (Content.stale now (e.contents key)).isSome) ∧
      e.contents.Reports .expired keys removals ∧
      (e.call (.cleanup orders now)).1 = .swept keys.length ∧
      (e.call (.cleanup orders now)).2.feed = e.feed.pushAll (removals.map .removal) := by
  have hreports := reports_swept h orders now
  refine ⟨_, _, mem_sweptKeys h orders now, hreports, ?_, e.call_feed (.cleanup orders now)⟩
  have hlength := congrArg List.length hreports.reported
  rw [List.length_map, List.length_map] at hlength
  rw [answer_cleanup, hlength]

/-- What a sweep of a cache with this log does, and what it leaves to reads and deletes. -/
structure SweepAgrees (config : CacheConfig) (log : List (EngineCall × EngineAnswer)) (e : Engine)
    (now : Instant) : Prop where
  /-- An entry that was written with a time to live is over at its end, if a clock can show it. -/
  expiry : ∀ key content, e.contents key = some content →
    ∃ before later value cost ttl written,
      log = before ++ (.set key value cost ttl written, .wrote true) :: later ∧
        (∀ entry ∈ later, ¬Settles key entry) ∧
        ∀ t, content.isExpired t = true ↔
          ∃ d, ttl.or config.defaultTtl = some d ∧ written + d ≤ lastInstant ∧ written + d ≤ t
  /-- What is over goes. All others keep their value, cost, expiry and segment. -/
  entries : ∀ orders (i : Nat) (s t : Shard) (key : Key), e.shards[i]? = some s →
    (e.call (.cleanup orders now)).2.shards[i]? = some t →
      t.entries[key]? = (s.entries[key]?).filter fun entry => !entry.isExpired now
  /-- The answer is the number of entries that go, and each of them is reported once. -/
  reported : ∀ orders, ∃ keys removals,
    (∀ key, key ∈ keys ↔ (Content.stale now (e.contents key)).isSome) ∧
      e.contents.Reports .expired keys removals ∧
      (e.call (.cleanup orders now)).1 = .swept keys.length ∧
      (e.call (.cleanup orders now)).2.feed = e.feed.pushAll (removals.map .removal)
  /-- The order in which the expired keys are met shows only in the order of main. -/
  ordered : ∀ orders others (i : Nat) (s t : Shard),
    (e.call (.cleanup orders now)).2.shards[i]? = some s →
      (e.call (.cleanup others now)).2.shards[i]? = some t → s.Alike t
  again : ∀ orders others, let swept := (e.call (.cleanup orders now)).2
    swept.call (.cleanup others now) = (.swept 0, swept)
  /-- Later reads and deletes answer and count as if there had been no sweep. -/
  unnoticed : ∀ orders run other, SameLookups now run other →
    let swept := (e.call (.cleanup orders now)).2
    swept.answers run = e.answers other ∧
      (swept.after run).stats.hits = (e.after other).stats.hits ∧
      (swept.after run).stats.misses = (e.after other).stats.misses

/-- In every state of a valid cache and at any time, sweeping and lazy expiry agree. -/
theorem sweeps_agree_with_lazy_expiry (entropy : Nat → Generator)
    (hvalid : config.validate = .ok ()) :
    ∃ new, ofConfig config entropy = .ok new ∧
      ∀ calls now, SweepAgrees config (new.log calls) (new.after calls) now := by
  obtain ⟨new, hnew, hsound, hempty⟩ := ofConfig_sound entropy hvalid
  have hhealthy : new.Healthy config := ⟨hsound, accounted_after_new hnew []⟩
  refine ⟨new, hnew, fun calls now => ?_⟩
  have hafter := hhealthy.after calls
  refine ⟨?_, ?_, fun orders => hafter.sound.reported_sweep orders now, ?_, ?_, ?_⟩
  · intro key content hheld
    obtain ⟨before, later, value, cost, ttl, written, hlog, rfl, hlater⟩ :=
      hsound.lastWrite hempty calls hheld
    exact ⟨before, later, value, cost, ttl, written, hlog, hlater,
      fun t => expiredAt_expiryAfter⟩
  · intro orders i s t key hs ht
    rw [getElem?_swept, hs] at ht
    obtain rfl := Option.some.inj ht
    exact s.get_swept (orders i) now key
  · intro orders others i s t hs ht
    rw [getElem?_swept] at hs ht
    obtain ⟨before, hbefore, rfl⟩ := Option.map_eq_some_iff.mp hs
    rw [hbefore] at ht
    obtain rfl := Option.some.inj ht
    exact (hafter.accounted i before hbefore).alike_sweeps (orders i) (others i) now
  · intro orders others
    exact call_cleanup_swept _ orders others now
  · intro orders run other hsame
    exact (hafter.agree_cleanup orders now).run hsame

/-- A sweep just when the time of one of two entries is over. -/
theorem sweep_agrees_at_the_end_of_a_ttl :
    let config : CacheConfig := { totalCapacity := 4, shardCount := 2 }
    let calls : List EngineCall := [.set [97] ⟨#[1]⟩ none (some 5) 2, .set [98] ⟨#[2]⟩ none none 3]
    let sweep : EngineCall := .cleanup (fun _ => .ascending) 7
    config.validate = .ok () ∧
      ∃ new, ofConfig config (fun _ => .ofSeed 0) = .ok new ∧
        SweepAgrees config (new.log calls) (new.after calls) 7 ∧
        (new.after calls).size = 2 ∧ (new.after (calls ++ [sweep])).size = 1 := by
  intro config calls sweep
  have hvalid : config.validate = .ok () := by decide
  obtain ⟨new, hnew, hagrees⟩ := sweeps_agree_with_lazy_expiry (fun _ => .ofSeed 0) hvalid
  have hsizes : (ofConfig config fun _ => .ofSeed 0).toOption.map (fun new =>
      ((new.after calls).size, (new.after (calls ++ [sweep])).size)) = some (2, 1) := by
    decide +kernel
  rw [hnew] at hsizes
  obtain ⟨hbefore, hafter⟩ := Prod.mk.inj (Option.some.inj hsizes)
  exact ⟨hvalid, new, hnew, hagrees calls 7, hbefore, hafter⟩

end Engine

end LfuCache
