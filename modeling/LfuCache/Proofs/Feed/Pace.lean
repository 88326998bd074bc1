import Mathlib
import LfuCache.Proofs.Feed.Conservation

/-!
# Pushes and the pace of the worker

While events are pushed, the worker takes some of them and leaves others for later. As long as
there is room for all of them, none is lost at any pace, and the sketch has learned each of
them once when the worker has caught up. After a shutdown nothing is pushed or taken any more.
-/

namespace LfuCache.Feed

variable {f : Feed} {events : List Event} {steps : List FeedCall}

/-! ## A worker at any pace -/

/-- The events are pushed in their order, and the worker takes its turns between them. -/
inductive Paced : List Event → List FeedCall → Prop where
  | done : Paced [] []
  | push {event : Event} {events : List Event} {steps : List FeedCall} :
    Paced events steps → Paced (event :: events) (.push event :: steps)
  | take {events : List Event} {steps : List FeedCall} :
    Paced events steps → Paced events (.take :: steps)

theorem paced_pushes (events : List Event) : Paced events (events.map .push) := by
  induction events with
  | nil => exact .done
  | cons event events ih => exact .push ih

theorem after_pushes (f : Feed) (events : List Event) :
    f.after (events.map .push) = f.pushAll events := by
  rw [after, pushAll, List.foldl_map]
  rfl

/-- `g` comes from `f` by pushes of the events, and none was lost. -/
structure Keeps (f : Feed) (events : List Event) (g : Feed) : Prop where
  accepts : g.Open
  working : g.Working
  capacity_eq : g.queue.capacity = f.queue.capacity
  dropped_eq : g.queue.dropped = f.queue.dropped
  settled_eq : g.settled.sketch = events.foldl learn f.settled.sketch

theorem Keeps.trans {g h : Feed} {more : List Event} (hfirst : f.Keeps events g)
    (hnext : g.Keeps more h) : f.Keeps (events ++ more) h where
  accepts := hnext.accepts
  working := hnext.working
  capacity_eq := hnext.capacity_eq.trans hfirst.capacity_eq
  dropped_eq := hnext.dropped_eq.trans hfirst.dropped_eq
  settled_eq := by rw [hnext.settled_eq, hfirst.settled_eq, List.foldl_append]

theorem keeps_push (hopen : f.Open) (hworking : f.Working)
    (hroom : f.queue.waiting.length < f.queue.capacity) (event : Event) :
    f.Keeps [event] (f.push event) ∧
      (f.push event).queue.waiting.length = f.queue.waiting.length + 1 := by
  have hpushed := push_pushed ⟨by omega, hroom.le⟩ event
  generalize f.push event = g at hpushed
  cases hpushed with
  | refused hshut => exact absurd hopen hshut
  | room => exact ⟨⟨hopen, hworking, rfl, rfl, List.foldl_append⟩, List.length_append⟩
  | full _ hfull => exact absurd hfull hroom.ne

theorem keeps_take (hopen : f.Open) (hworking : f.Working) :
    f.Keeps [] f.takeNext ∧ f.takeNext.queue.waiting.length ≤ f.queue.waiting.length := by
  obtain ⟨totals, hworker⟩ := working_iff.mp hworking
  rw [takeNext_of_running hworker]
  refine ⟨⟨hopen, rfl, rfl, rfl, ?_⟩, by simp [EventQueue.receive]⟩
  rw [settled, settled]
  simp only [f.queue.waiting_eq_receive, List.foldl_append, List.foldl_nil]

theorem keeps_paced (hpaced : Paced events steps) (hopen : f.Open) (hworking : f.Working)
    (hroom : f.queue.waiting.length + events.length ≤ f.queue.capacity) :
    f.Keeps events (f.after steps) := by
  induction hpaced generalizing f with
  | done => exact ⟨hopen, hworking, rfl, rfl, rfl⟩
  | @push event events steps _ ih =>
    rw [List.length_cons] at hroom
    obtain ⟨hpush, hlength⟩ := keeps_push hopen hworking (by omega) event
    exact hpush.trans (ih hpush.accepts hpush.working (by rw [hlength, hpush.capacity_eq]; omega))
  | take _ ih =>
    obtain ⟨htake, hlength⟩ := keeps_take hopen hworking
    exact htake.trans (ih htake.accepts htake.working (by rw [htake.capacity_eq]; omega))

/-! ## A worker that has caught up -/

/-- Nothing waits and nothing was lost. There is room for `limit` events. -/
structure CaughtUp (limit : Nat) (f : Feed) : Prop where
  accepts : f.Open
  working : f.Working
  waiting_eq : f.queue.waiting = []
  dropped_eq : f.queue.dropped = 0
  limit_le : limit ≤ f.queue.capacity

theorem CaughtUp.wait {limit : Nat} (h : f.CaughtUp limit) (hpaced : Paced events steps)
    (hfits : events.length ≤ limit) :
    (f.after steps).wait.CaughtUp limit ∧
      (f.after steps).wait.sketch = events.foldl learn f.sketch := by
  have hsettled : f.settled.sketch = f.sketch := by
    rw [settled, h.waiting_eq]
    rfl
  have hlimit := h.limit_le
  have hkeeps := keeps_paced hpaced h.accepts h.working (by rw [h.waiting_eq, List.length_nil]; omega)
  obtain ⟨totals, hworker⟩ := working_iff.mp hkeeps.working
  rw [wait_of_running hworker]
  exact ⟨⟨hkeeps.accepts, rfl, rfl, hkeeps.dropped_eq.trans h.dropped_eq,
    hlimit.trans hkeeps.capacity_eq.ge⟩, hkeeps.settled_eq.trans (by rw [hsettled])⟩

theorem CaughtUp.shutdown {limit : Nat} (h : f.CaughtUp limit) :
    f.close.shutdown.2.sketch = f.sketch ∧ f.close.shutdown.2.queue.dropped = 0 := by
  obtain ⟨totals, hworker⟩ := working_iff.mp h.working
  rw [shutdown_of_running (f := f.close) hworker]
  refine ⟨?_, h.dropped_eq⟩
  rw [settled, close, EventQueue.close, h.waiting_eq]
  rfl

theorem caughtUp_start (limit : Nat) (sketch : Sketch) :
    (empty limit sketch).start.CaughtUp limit :=
  ⟨⟨rfl, rfl⟩, rfl, rfl, rfl, Nat.le_max_left _ _⟩

/-! ## After a shutdown -/

/-- The queue takes nothing, and no worker is left. -/
structure Stopped (f : Feed) : Prop where
  closed : f.queue.closed = true
  idle : ¬f.Working

theorem stopped_shutdown (f : Feed) : f.close.shutdown.2.Stopped := by
  by_cases hworking : f.Working
  · obtain ⟨totals, hworker⟩ := working_iff.mp hworking
    rw [shutdown_of_running (f := f.close) hworker]
    exact ⟨rfl, by simp [Working, Worker.isRunning]⟩
  · have hidle : ¬f.close.Working := hworking
    unfold shutdown
    split
    · exact absurd (working_iff.mpr ⟨_, ‹_›⟩) hidle
    · exact ⟨rfl, by simp [Working, Worker.isRunning]⟩
    · exact ⟨rfl, hidle⟩
    · exact ⟨rfl, hidle⟩

namespace Stopped

theorem push (h : f.Stopped) (event : Event) : f.push event = f :=
  push_of_shut (not_open_of_closed h.closed) event

theorem paced (h : f.Stopped) (hpaced : Paced events steps) : f.after steps = f := by
  induction hpaced with
  | done => rfl
  | @push event events steps _ ih =>
    rw [after, List.foldl_cons, call, h.push]
    exact ih
  | take _ ih =>
    rw [after, List.foldl_cons, call, takeNext_of_idle h.idle]
    exact ih

theorem shutdown (h : f.Stopped) :
    f.close.shutdown.2.sketch = f.sketch ∧
      f.close.shutdown.2.queue.dropped = f.queue.dropped := by
  have hidle : ¬f.close.Working := h.idle
  obtain ⟨worker, hshutdown⟩ := shutdown_of_idle hidle
  rw [hshutdown]
  exact ⟨rfl, rfl⟩

end Stopped

end LfuCache.Feed
