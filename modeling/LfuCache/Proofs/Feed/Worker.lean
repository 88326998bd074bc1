import Mathlib
import LfuCache.Proofs.Feed.Calls

/-!
# The worker

All that a worker takes goes to the sketch, an access as one increment, and is counted by its
kind. It has taken everything when it answers, and when it goes.
-/

namespace LfuCache

/-! ## Counting by kind -/

namespace Event

def hash? : Event → Option UInt64
  | .access hash => some hash
  | .removal _ => none

def cause? : Event → Option RemovalCause
  | .access _ => none
  | .removal r => some r.cause

end Event

namespace WorkerTotals

def tally (events : List Event) : WorkerTotals where
  accesses := events.countP (·.cause? = none)
  deletions := events.countP (·.cause? = some .deleted)
  evictions := events.countP (·.cause? = some .evicted)
  expirations := events.countP (·.cause? = some .expired)

theorem foldl_count (events : List Event) : events.foldl count {} = tally events := by
  induction events using List.reverseRecOn with
  | nil => rfl
  | append_singleton events event ih =>
    rw [List.foldl_concat, ih]
    cases event with
    | access hash => simp [tally, count, Event.cause?]
    | removal r => cases hcause : r.cause <;> simp [tally, count, Event.cause?, hcause]

end WorkerTotals

/-- The totals that nobody has asked for yet. -/
def Worker.totals? : Worker → Option WorkerTotals
  | .running totals | .ended totals => some totals
  | .absent | .stopped => none

namespace Feed

variable {f : Feed} {call : FeedCall} {later : List FeedCall}

theorem foldl_learn (events : List Event) (sketch : Sketch) :
    events.foldl learn sketch = (events.filterMap Event.hash?).foldl Sketch.increment sketch := by
  induction events generalizing sketch with
  | nil => rfl
  | cons event events ih => cases event <;> exact ih _

/-! ## When the worker has taken all -/

/-- A working worker answers, or goes. One that is started without a queue goes at once. -/
def Settles (f : Feed) : FeedCall → Prop
  | .wait | .abandon | .shutdown => f.Working
  | .spawn => f.abandoned = true
  | _ => False

instance (f : Feed) : (call : FeedCall) → Decidable (f.Settles call)
  | .wait | .abandon | .shutdown => inferInstanceAs (Decidable f.Working)
  | .spawn => inferInstanceAs (Decidable (_ = _))
  | .push _ | .receive | .drain | .close | .take => inferInstanceAs (Decidable False)

theorem call_settled (h : f.Settles call) :
    (f.call call).queue = f.settled.queue ∧ (f.call call).sketch = f.settled.sketch ∧
      f.applied call = f.queue.waiting := by
  cases call with
  | wait =>
    obtain ⟨totals, hworker⟩ := working_iff.mp h
    rw [Feed.call, wait_of_running hworker]
    exact ⟨rfl, rfl, if_pos h⟩
  | abandon =>
    obtain ⟨totals, hworker⟩ := working_iff.mp h
    rw [Feed.call, abandon_of_running hworker]
    exact ⟨rfl, rfl, if_pos h⟩
  | shutdown =>
    obtain ⟨totals, hworker⟩ := working_iff.mp h
    rw [Feed.call, shutdown_of_running hworker]
    exact ⟨rfl, rfl, if_pos h⟩
  | spawn =>
    rw [Feed.call, start_of_abandoned h]
    exact ⟨rfl, rfl, if_pos h⟩
  | push => exact h.elim
  | receive => exact h.elim
  | drain => exact h.elim
  | close => exact h.elim
  | take => exact h.elim

def workerCalls : List FeedCall := [.spawn, .wait, .abandon, .shutdown]

theorem workerCalls_give (f : Feed) (hcall : call ∈ workerCalls) :
    call ≠ .close ∧ f.offered call = [] ∧
      f.delivered call = (f.applied call).map (·, .worker) := by
  cases call with
  | spawn => exact ⟨by simp, rfl, rfl⟩
  | wait => exact ⟨by simp, rfl, rfl⟩
  | abandon => exact ⟨by simp, rfl, rfl⟩
  | shutdown => exact ⟨by simp, rfl, rfl⟩
  | _ => simp [workerCalls] at hcall

theorem call_unsettled (hcall : call ∈ workerCalls) (h : ¬f.Settles call) :
    (f.call call).queue = f.queue ∧ (f.call call).sketch = f.sketch ∧ f.applied call = [] := by
  cases call with
  | wait =>
    rw [Feed.call, wait_of_idle h]
    exact ⟨rfl, rfl, if_neg h⟩
  | abandon =>
    rw [Feed.call, abandon_of_idle h]
    exact ⟨rfl, rfl, if_neg h⟩
  | shutdown =>
    obtain ⟨worker, hshutdown⟩ := shutdown_of_idle h
    rw [Feed.call, hshutdown]
    exact ⟨rfl, rfl, if_neg h⟩
  | spawn =>
    rw [Feed.call, start_of_open h]
    exact ⟨rfl, rfl, if_neg h⟩
  | _ => simp [workerCalls] at hcall

/-! ## The sketch -/

theorem sketch_call (f : Feed) (call : FeedCall) :
    (f.call call).sketch = (f.applied call).foldl learn f.sketch := by
  by_cases hcall : call ∈ workerCalls
  · by_cases hsettles : f.Settles call
    · obtain ⟨-, hsketch, happlied⟩ := call_settled hsettles
      rw [hsketch, happlied]
      rfl
    · obtain ⟨-, hsketch, happlied⟩ := call_unsettled hcall hsettles
      rw [hsketch, happlied]
      rfl
  cases call with
  | push event =>
    obtain ⟨queue, hpush⟩ := f.push_eq event
    rw [Feed.call, hpush]
    rfl
  | receive => rfl
  | drain => rfl
  | close => rfl
  | take =>
    by_cases hworking : f.Working
    · obtain ⟨totals, hworker⟩ := working_iff.mp hworking
      rw [Feed.call, takeNext_of_running hworker, applied, if_pos hworking]
    · rw [Feed.call, takeNext_of_idle hworking, applied, if_neg hworking]
      rfl
  | _ => simp [workerCalls] at hcall

theorem sketch_after (f : Feed) (calls : List FeedCall) :
    (f.after calls).sketch = (f.along applied calls).foldl learn f.sketch := by
  induction calls using List.reverseRecOn with
  | nil => rfl
  | append_singleton calls call ih =>
    rw [after_concat, along_concat, sketch_call, ih, List.foldl_append]

/-! ## The totals -/

theorem totals_call (hspawn : call ≠ .spawn) (hshutdown : call ≠ .shutdown) :
    (f.call call).worker.totals? =
      f.worker.totals?.map fun totals => (f.applied call).foldl .count totals := by
  have hsame : f.worker.totals? = f.worker.totals?.map fun totals => totals := by simp
  cases call with
  | push event =>
    obtain ⟨queue, hpush⟩ := f.push_eq event
    rw [Feed.call, hpush]
    exact hsame
  | receive => exact hsame
  | drain => exact hsame
  | close => exact hsame
  | take =>
    by_cases hworking : f.Working
    · obtain ⟨totals, hworker⟩ := working_iff.mp hworking
      rw [Feed.call, takeNext_of_running hworker, applied, if_pos hworking, hworker]
      rfl
    · rw [Feed.call, takeNext_of_idle hworking, applied, if_neg hworking]
      exact hsame
  | wait =>
    by_cases hworking : f.Working
    · obtain ⟨totals, hworker⟩ := working_iff.mp hworking
      rw [Feed.call, wait_of_running hworker, applied, if_pos hworking, hworker]
      rfl
    · rw [Feed.call, wait_of_idle hworking, applied, if_neg hworking]
      exact hsame
  | abandon =>
    by_cases hworking : f.Working
    · obtain ⟨totals, hworker⟩ := working_iff.mp hworking
      rw [Feed.call, abandon_of_running hworker, applied, if_pos hworking, hworker]
      rfl
    · rw [Feed.call, abandon_of_idle hworking, applied, if_neg hworking]
      exact hsame
  | spawn => exact absurd rfl hspawn
  | shutdown => exact absurd rfl hshutdown

theorem totals_spawn (f : Feed) :
    (f.call .spawn).worker.totals? = some ((f.applied .spawn).foldl .count {}) := by
  by_cases hgone : f.abandoned = true
  · rw [Feed.call, start_of_abandoned hgone, applied, if_pos hgone]
    rfl
  · rw [Feed.call, start_of_open hgone, applied, if_neg hgone]
    rfl

theorem totals_shutdown (f : Feed) :
    (f.call .shutdown).worker.totals? = none ∧
      f.shutdown.1 =
        f.worker.totals?.map fun totals => (f.applied .shutdown).foldl .count totals := by
  by_cases hworking : f.Working
  · obtain ⟨totals, hworker⟩ := working_iff.mp hworking
    rw [Feed.call, shutdown_of_running hworker, applied, if_pos hworking, hworker]
    exact ⟨rfl, rfl⟩
  · rw [Feed.call, applied, if_neg hworking]
    unfold shutdown
    cases hworker : f.worker with
    | running totals => exact absurd (working_iff.mpr ⟨totals, hworker⟩) hworking
    | absent => simp [hworker, Worker.totals?]
    | ended totals => simp [Worker.totals?]
    | stopped => simp [hworker, Worker.totals?]

theorem totals_after (hspawn : .spawn ∉ later) (f : Feed) :
    (f.after later).worker.totals? =
      if .shutdown ∈ later then none
      else f.worker.totals?.map fun totals => (f.along applied later).foldl .count totals := by
  induction later using List.reverseRecOn with
  | nil => simp [after, along]
  | append_singleton later call ih =>
    simp only [List.mem_append, List.mem_singleton, not_or] at hspawn ⊢
    rw [after_concat, along_concat]
    -- A shutdown takes the totals away, and only a new worker would bring some back.
    by_cases hshutdown : call = .shutdown
    · subst hshutdown
      rw [(totals_shutdown _).1, if_pos (.inr rfl)]
    · rw [totals_call (Ne.symm hspawn.2) hshutdown, ih hspawn.1]
      simp only [Ne.symm hshutdown, or_false]
      split
      · rfl
      · rw [Option.map_map]
        congr 1
        funext totals
        exact (List.foldl_append ..).symm

/-- A shutdown hands over what the worker has taken since it was started, once. -/
theorem shutdown_after_spawn (hspawn : .spawn ∉ later) (f : Feed) :
    (f.after (.spawn :: later)).shutdown.1 =
      if .shutdown ∈ later then none
      else some (.tally (f.along applied (.spawn :: later ++ [.shutdown]))) := by
  have hafter : f.after (.spawn :: later) = (f.call .spawn).after later := rfl
  rw [(totals_shutdown _).2, hafter, totals_after hspawn, totals_spawn]
  split
  · rfl
  · rw [← WorkerTotals.foldl_count, along_concat, along, List.foldl_append, List.foldl_append]
    rfl

theorem shutdown_after_no_spawn (hspawn : .spawn ∉ later) (hworker : f.worker.totals? = none) :
    (f.after later).shutdown.1 = none := by
  rw [(totals_shutdown _).2, totals_after hspawn, hworker]
  split <;> rfl

end Feed

end LfuCache
