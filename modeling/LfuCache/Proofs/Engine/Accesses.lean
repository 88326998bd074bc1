import Mathlib
import LfuCache.Proofs.Engine.Events
import LfuCache.Proofs.Engine.Ledger
import LfuCache.Proofs.Feed.Pace

/-!
# Each use is learned once

If every call is followed by a wait, and none publishes more than the queue has room for, then
the sketch has learned each read and each write that succeeded, in their order, and nothing
else. From a shutdown on it learns nothing any more, and the shards do not notice.
-/

namespace LfuCache

namespace EngineCall

/-- A call that somebody makes. The worker moves on by itself. -/
def IsOperation (call : EngineCall) : Prop := ∀ feed, call ≠ .learn feed

theorem publish_of_operation {call : EngineCall} (hcall : call.IsOperation) (feed : Feed)
    (events : List Event) : call.publish feed events = feed.pushAll events := by
  cases call with
  | learn other => exact absurd rfl (hcall other)
  | _ => rfl

end EngineCall

namespace Engine

variable {config : CacheConfig} {e f new : Engine} {limit : Nat}
  {log : List (EngineCall × EngineAnswer)}

/-! ## Calls, each with a wait -/

/-- The engine after a call, with the worker's turns between the events that it publishes. -/
def callWith (e : Engine) (call : EngineCall) (steps : List FeedCall) : Engine :=
  { (e.call call).2 with feed := e.feed.after steps }

theorem callWith_pushes {call : EngineCall} (hcall : call.IsOperation) (e : Engine) :
    e.callWith call ((e.published call).map .push) = (e.call call).2 := by
  have hfeed := e.call_feed call
  rw [EngineCall.publish_of_operation hcall] at hfeed
  rw [callWith, Feed.after_pushes, ← hfeed]

/-- The logs of a cache where each call publishes no more than `limit` and is followed by a
wait. While the call publishes, the worker goes at any pace. -/
inductive Waits (limit : Nat) (new : Engine) : List (EngineCall × EngineAnswer) → Engine → Prop where
  | start : Waits limit new [] new
  | call {log : List (EngineCall × EngineAnswer)} {e : Engine} {call : EngineCall}
    {steps : List FeedCall} : Waits limit new log e → call.IsOperation →
    (e.published call).length ≤ limit → Feed.Paced (e.published call) steps →
    Waits limit new (log ++ [(call, (e.call call).1)]) (e.callWith call steps).wait

/-- The uses of a log, the first one first. -/
def uses (log : List (EngineCall × EngineAnswer)) : List UInt64 :=
  log.filterMap fun entry => entry.1.used? entry.2

theorem Waits.sketch (h : Waits limit new log e) (hnew : new.feed.CaughtUp limit) :
    e.feed.CaughtUp limit ∧
      e.feed.sketch = (uses log).foldl Sketch.increment new.feed.sketch := by
  induction h with
  | start => exact ⟨hnew, rfl⟩
  | @call log e call steps _ _ hfits hpaced ih =>
    obtain ⟨hcaught, hlearned⟩ := ih
    obtain ⟨hnext, hsketch⟩ := hcaught.wait hpaced hfits
    refine ⟨hnext, hsketch.trans ?_⟩
    have huses : uses (log ++ [(call, (e.call call).1)]) =
        uses log ++ (call.used? (e.call call).1).toList := by
      rw [uses, List.filterMap_append]
      cases hused : call.used? (e.call call).1 <;> simp [hused, uses]
    rw [Feed.foldl_learn, hashes_published, huses, List.foldl_append, hlearned]

/-! ## After a shutdown -/

/-- What a cache may become: by calls and the worker's turns, by waits and by shutdowns. -/
inductive Becomes (e : Engine) : Engine → Prop where
  | same : Becomes e e
  | call {f : Engine} {call : EngineCall} {steps : List FeedCall} : Becomes e f →
    call.IsOperation → Feed.Paced (f.published call) steps → Becomes e (f.callWith call steps)
  | wait {f : Engine} : Becomes e f → Becomes e f.wait
  | shutdown {f : Engine} : Becomes e f → Becomes e f.shutdown

theorem Becomes.frozen (h : Becomes e f) (hstopped : e.feed.Stopped) :
    f.feed.Stopped ∧ f.feed.sketch = e.feed.sketch ∧
      f.feed.queue.dropped = e.feed.queue.dropped := by
  induction h with
  | same => exact ⟨hstopped, rfl, rfl⟩
  | @call f call steps _ _ hpaced ih =>
    rw [callWith, ih.1.paced hpaced]
    exact ih
  | @wait f _ ih =>
    rw [Engine.wait, Feed.wait_of_idle ih.1.idle]
    exact ih
  | @shutdown f _ ih =>
    obtain ⟨hsketch, hdropped⟩ := ih.1.shutdown
    exact ⟨f.feed.stopped_shutdown, hsketch.trans ih.2.1, hdropped.trans ih.2.2⟩

/-! ## A new cache -/

theorem feed_new {entropy : Nat → Generator} (hnew : ofConfig config entropy = .ok new) :
    new.feed = (Feed.empty config.queueCapacity
      (.empty config.sketchCounters config.resetMultiplier)).start := by
  unfold ofConfig at hnew
  split at hnew
  · exact absurd hnew (by simp)
  · split at hnew
    · rw [← Except.ok.inj hnew]
    · exact absurd hnew (by simp)

/-- What the sketch of a cache has learned when each call is followed by a wait. -/
structure LearnsUses (config : CacheConfig) (new : Engine) : Prop where
  /-- Each call can be made, at least with a worker that takes nothing before the wait. -/
  waits : ∀ log e call, Waits config.queueCapacity new log e → call.IsOperation →
    (e.published call).length ≤ config.queueCapacity →
      Waits config.queueCapacity new (log ++ [(call, (e.call call).1)]) (e.call call).2.wait
  /-- The sketch has one increment for each use, and nothing is dropped. -/
  sketch : ∀ log e, Waits config.queueCapacity new log e →
    e.feed.sketch = (uses log).foldl Sketch.increment
        (.empty config.sketchCounters config.resetMultiplier) ∧
      e.stats.droppedEvents = 0
  /-- Whatever is done after a shutdown, the sketch stays what it was before. -/
  frozen : ∀ log e f, Waits config.queueCapacity new log e → Becomes e.shutdown f →
    f.feed.sketch = e.feed.sketch ∧ f.stats.droppedEvents = 0

/-- A new cache learns each successful use once and in order, until it is shut down. After a
shutdown, in any state and as often as one likes, nothing changes the sketch or the count of
dropped events, and calls do to the shards what they would do with another feed. -/
theorem uses_are_learned_once :
    (∀ config entropy, config.validate = .ok () →
      ∃ new, ofConfig config entropy = .ok new ∧ LearnsUses config new) ∧
    ∀ e f : Engine, Becomes e.shutdown f →
      f.feed.sketch = e.shutdown.feed.sketch ∧
        f.stats.droppedEvents = e.shutdown.stats.droppedEvents ∧
        ∀ (call : EngineCall) (feed : Feed), feed.sketch = f.feed.sketch →
          (f.call call).1 = (({ f with feed } : Engine).call call).1 ∧
            (f.call call).2.shards = (({ f with feed } : Engine).call call).2.shards := by
  constructor
  · intro config entropy hvalid
    obtain ⟨new, hnew, -⟩ := ofConfig_sound entropy hvalid
    have hcaught : new.feed.CaughtUp config.queueCapacity := by
      rw [feed_new hnew]
      exact Feed.caughtUp_start _ _
    refine ⟨new, hnew, ?_, ?_, ?_⟩
    · intro log e call hwaits hcall hfits
      rw [← callWith_pushes hcall]
      exact hwaits.call hcall hfits (Feed.paced_pushes _)
    · intro log e hwaits
      obtain ⟨hcaught, hsketch⟩ := hwaits.sketch hcaught
      rw [feed_new hnew] at hsketch
      exact ⟨hsketch, hcaught.dropped_eq⟩
    · intro log e f hwaits hbecomes
      obtain ⟨hsketch, hdropped⟩ := (hwaits.sketch hcaught).1.shutdown
      obtain ⟨-, hfrozen, hcount⟩ := hbecomes.frozen e.feed.stopped_shutdown
      exact ⟨hfrozen.trans hsketch, hcount.trans hdropped⟩
  · intro e f hbecomes
    obtain ⟨-, hsketch, hdropped⟩ := hbecomes.frozen e.feed.stopped_shutdown
    refine ⟨hsketch, hdropped, fun call feed hsame => ?_⟩
    obtain ⟨hanswer, hshards⟩ := call_congr (e := f) (f := { f with feed }) rfl rfl hsame call
    exact ⟨hanswer.symm, hshards.symm⟩

/-- A read, a shutdown and another read: the sketch has learned the first one. -/
theorem read_before_shutdown_is_learned_once :
    let config : CacheConfig := {}
    let read : EngineCall := .get [97] 0
    let learned := (Sketch.empty config.sketchCounters config.resetMultiplier).increment
      (keyHash [97])
    config.validate = .ok () ∧
      ∃ new, ofConfig config (fun _ => .ofSeed 0) = .ok new ∧ LearnsUses config new ∧
        ∃ value e f, Waits config.queueCapacity new [(read, .found value)] e ∧
          e.feed.sketch = learned ∧ Becomes e.shutdown f ∧ f.feed.sketch = learned ∧
            (f.call read).1 = (({ f with feed := e.feed } : Engine).call read).1 := by
  intro config read learned
  obtain ⟨new, hnew, hlearns⟩ := uses_are_learned_once.1 config (fun _ => .ofSeed 0) (by decide)
  have hread : read.IsOperation := by simp [read, EngineCall.IsOperation]
  have hfits : ∀ e : Engine, (e.published read).length ≤ config.queueCapacity := by
    intro e
    have hroom : 2 ≤ config.queueCapacity := by decide
    simp only [read, published, if_neg (List.cons_ne_nil _ _), List.length_cons]
    have := Option.length_toList_le
      (o := ((e.shardOf (keyHash [97])).get e.frequencyOf [97] 0).1.expired.map Event.removal)
    omega
  have hfirst := hlearns.waits [] new read .start hread (hfits new)
  obtain ⟨value, hvalue⟩ : ∃ value, (new.call read).1 = .found value :=
    ⟨_, congrArg Prod.fst (call_get (by decide) rfl)⟩
  rw [hvalue, List.nil_append] at hfirst
  generalize (new.call read).2.wait = e at hfirst
  have huses : uses [(read, .found value)] = [keyHash [97]] := rfl
  have hsketch : e.feed.sketch = learned := by
    rw [(hlearns.sketch _ e hfirst).1, huses, List.foldl_cons, List.foldl_nil]
  have hsecond : Becomes e.shutdown (e.shutdown.call read).2 := by
    rw [← callWith_pushes hread]
    exact Becomes.same.call hread (Feed.paced_pushes _)
  have hfrozen := (hlearns.frozen _ e _ hfirst hsecond).1
  have hanswer := ((uses_are_learned_once.2 e _ hsecond).2.2 read e.feed hfrozen.symm).1
  exact ⟨by decide, new, hnew, hlearns, value, e, _, hfirst, hsketch, hsecond,
    hfrozen.trans hsketch, hanswer⟩

end Engine

end LfuCache
