import LfuCache.Engine

/-!
# Sweeping at intervals

A task sleeps for its interval, drops what has expired, and sleeps again. Its clock is not
the clock of the entries, and may jump. A task that has overslept sweeps once, and its next
sleep starts from then on.
-/

namespace LfuCache

structure SweepTask where
  interval : Nat
  /-- When the task wakes up. -/
  wakesAt : Nat
deriving DecidableEq, Repr

/-- The tasks of a cache and the time they sleep by, in milliseconds. -/
structure Sweeper where
  clock : Nat := 0
  tasks : List SweepTask := []
deriving DecidableEq, Repr

namespace Sweeper

/-- An interval of no seconds is one second. -/
def start (s : Sweeper) (seconds : Nat) : Sweeper :=
  let interval := max seconds 1 * 1000
  { s with tasks := s.tasks ++ [⟨interval, s.clock + interval⟩] }

def isDue (clock : Nat) (task : SweepTask) : Bool := decide (task.wakesAt ≤ clock)

def sleepAgain (clock : Nat) (task : SweepTask) : SweepTask :=
  if isDue clock task then { task with wakesAt := clock + task.interval } else task

/-- The clock jumps. Each task that is due sweeps once. -/
def advance (s : Sweeper) (milliseconds : Nat) (now : Instant) (e : Engine) : Sweeper × Engine :=
  let clock := s.clock + milliseconds
  let e := (s.tasks.filter (isDue clock)).foldl (fun e _ => (e.cleanup now).2) e
  (⟨clock, s.tasks.map (sleepAgain clock)⟩, e)

def stop (s : Sweeper) : Sweeper := { s with tasks := [] }

end Sweeper

end LfuCache
