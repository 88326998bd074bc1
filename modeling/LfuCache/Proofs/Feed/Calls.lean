import Mathlib
import LfuCache.Feed

/-!
# Runs of a feed

Those who push, those who receive and the worker take turns in any order. A running worker
takes events whether or not somebody waits for it, so that is a step of a run like the others.
-/

namespace LfuCache

inductive FeedCall where
  | push (event : Event)
  | receive
  | drain
  | close
  | spawn
  /-- The worker takes one event by itself. -/
  | take
  | wait
  | abandon
  | shutdown
deriving DecidableEq

inductive Taker where
  | consumer
  | worker
deriving DecidableEq

namespace Feed

variable {f : Feed}

/-- A running worker applies the oldest event. -/
def takeNext (f : Feed) : Feed :=
  match f.worker with
  | .running totals =>
    let (event, queue) := f.queue.receive
    { f with
      queue
      worker := .running (event.toList.foldl .count totals)
      sketch := event.toList.foldl learn f.sketch }
  | _ => f

def call (f : Feed) : FeedCall → Feed
  | .push event => f.push event
  | .receive => f.receive.2
  | .drain => f.drain.2
  | .close => f.close
  | .spawn => f.start
  | .take => f.takeNext
  | .wait => f.wait
  | .abandon => f.abandon
  | .shutdown => f.shutdown.2

def after (f : Feed) (calls : List FeedCall) : Feed := calls.foldl call f

theorem after_append (f : Feed) (calls more : List FeedCall) :
    f.after (calls ++ more) = (f.after calls).after more := List.foldl_append

theorem after_concat (f : Feed) (calls : List FeedCall) (call : FeedCall) :
    f.after (calls ++ [call]) = (f.after calls).call call := List.foldl_concat ..

/-- What each call of a run gives, from the first one on. -/
def along {α : Type} (gives : Feed → FeedCall → List α) (f : Feed) : List FeedCall → List α
  | [] => []
  | call :: calls => gives f call ++ along gives (f.call call) calls

theorem along_append {α : Type} (gives : Feed → FeedCall → List α) (f : Feed)
    (calls more : List FeedCall) :
    f.along gives (calls ++ more) = f.along gives calls ++ (f.after calls).along gives more := by
  induction calls generalizing f with
  | nil => rfl
  | cons call calls ih => rw [List.cons_append, along, along, ih, List.append_assoc]; rfl

theorem along_concat {α : Type} (gives : Feed → FeedCall → List α) (f : Feed)
    (calls : List FeedCall) (call : FeedCall) :
    f.along gives (calls ++ [call]) = f.along gives calls ++ gives (f.after calls) call := by
  rw [along_append, along, along, List.append_nil]

theorem push_eq (f : Feed) (event : Event) : ∃ queue, f.push event = { f with queue } := by
  unfold push
  split
  · exact ⟨f.queue, rfl⟩
  · exact ⟨f.queue.push event, rfl⟩

/-! ## What a call moves -/

/-- The queue is there, and takes events. -/
def Open (f : Feed) : Prop := f.queue.closed = false ∧ f.abandoned = false

instance (f : Feed) : Decidable f.Open := inferInstanceAs (Decidable (_ ∧ _))

def Working (f : Feed) : Prop := f.worker.isRunning = some true

instance (f : Feed) : Decidable f.Working := inferInstanceAs (Decidable (_ = _))

/-- What the open queue is given. -/
def offered (f : Feed) : FeedCall → List Event
  | .push event => if f.Open then [event] else []
  | _ => []

/-- What a consumer is handed. -/
def received (f : Feed) : FeedCall → List Event
  | .receive => f.receive.1.toList
  | .drain => f.drain.1
  | _ => []

/-- What a worker takes. One that starts without a queue takes all that is left. -/
def applied (f : Feed) : FeedCall → List Event
  | .take => if f.Working then f.queue.receive.1.toList else []
  | .wait | .abandon | .shutdown => if f.Working then f.queue.waiting else []
  | .spawn => if f.abandoned then f.queue.waiting else []
  | _ => []

def delivered (f : Feed) (call : FeedCall) : List (Event × Taker) :=
  (f.received call).map (·, .consumer) ++ (f.applied call).map (·, .worker)

/-! ## The worker -/

theorem working_iff : f.Working ↔ ∃ totals, f.worker = .running totals := by
  unfold Working
  cases f.worker <;> simp [Worker.isRunning]

/-- All that waits has gone to the sketch. -/
def settled (f : Feed) : Feed :=
  { f with
    queue := { f.queue with waiting := [] }
    sketch := f.queue.waiting.foldl learn f.sketch }

theorem work_eq (f : Feed) (totals : WorkerTotals) :
    f.work totals = (f.queue.waiting.foldl .count totals, f.settled) := rfl

section

variable {totals : WorkerTotals} (h : f.worker = .running totals)
include h

theorem takeNext_of_running :
    f.takeNext =
      { f with
        queue := f.queue.receive.2
        worker := .running (f.queue.receive.1.toList.foldl .count totals)
        sketch := f.queue.receive.1.toList.foldl learn f.sketch } := by
  simp only [takeNext, h]

theorem wait_of_running :
    f.wait = { f.settled with worker := .running (f.queue.waiting.foldl .count totals) } := by
  simp only [wait, h, work_eq]

theorem abandon_of_running :
    f.abandon =
      { f.settled with
        abandoned := true
        worker := .ended (f.queue.waiting.foldl .count totals) } := by
  simp only [abandon, h, work_eq]

theorem shutdown_of_running :
    f.shutdown =
      (some (f.queue.waiting.foldl .count totals), { f.settled with worker := .stopped }) := by
  simp only [shutdown, h, work_eq]

end

section

variable (h : ¬f.Working)
include h

theorem takeNext_of_idle : f.takeNext = f := by
  unfold takeNext
  split
  · exact absurd (working_iff.mpr ⟨_, ‹_›⟩) h
  · rfl

theorem wait_of_idle : f.wait = f := by
  unfold wait
  split
  · exact absurd (working_iff.mpr ⟨_, ‹_›⟩) h
  · rfl

theorem abandon_of_idle : f.abandon = { f with abandoned := true } := by
  unfold abandon
  split
  · exact absurd (working_iff.mpr ⟨_, ‹_›⟩) h
  · rfl

theorem shutdown_of_idle : ∃ worker, f.shutdown.2 = { f with worker } := by
  unfold shutdown
  split
  · exact absurd (working_iff.mpr ⟨_, ‹_›⟩) h
  · exact ⟨.stopped, rfl⟩
  · exact ⟨f.worker, rfl⟩
  · exact ⟨f.worker, rfl⟩

end

theorem start_of_abandoned (h : f.abandoned = true) :
    f.start = { f.settled with worker := .ended (f.queue.waiting.foldl .count {}) } := by
  simp only [start, h, if_true, work_eq]

theorem start_of_open (h : ¬f.abandoned = true) : f.start = { f with worker := .running {} } := by
  rw [start, if_neg h]

theorem wait_eq_takes (f : Feed) :
    f.wait = f.after (List.replicate f.queue.waiting.length .take) := by
  by_cases hworking : f.Working
  · obtain ⟨totals, hworker⟩ := working_iff.mp hworking
    obtain ⟨⟨capacity, waiting, dropped, closed⟩, abandoned, worker, sketch⟩ := f
    obtain rfl : worker = .running totals := hworker
    clear hworking
    induction waiting generalizing totals sketch with
    | nil => rfl
    | cons event waiting ih => exact ih (totals.count event) (learn sketch event)
  · rw [wait_of_idle hworking]
    generalize f.queue.waiting.length = turns
    induction turns with
    | zero => rfl
    | succ turns ih =>
      rw [List.replicate_succ, after, List.foldl_cons, call, takeNext_of_idle hworking]
      exact ih

end Feed

end LfuCache
