import Mathlib
import LfuCache.Proofs.Feed.Worker

/-!
# No event goes astray

Every event that the open queue is given is delivered once, or lost once, or still waits, and
all of that in the order of the pushes. What the worker takes is what the sketch has learned
and what the totals count.
-/

namespace LfuCache

/-! ## The queue -/

namespace EventQueue

variable {q : EventQueue}

theorem trySend_of_room (event : Event) (h : q.waiting.length < q.capacity) :
    q.trySend event = some { q with waiting := q.waiting ++ [event] } := if_pos h

theorem trySend_of_full (event : Event) (h : q.waiting.length = q.capacity) :
    q.trySend event = none := if_neg (by omega)

theorem dropOldest_of_cons {oldest : Event} {rest : List Event} (h : q.waiting = oldest :: rest) :
    q.dropOldest = { q with waiting := rest, dropped := q.dropped + 1 } := by
  rw [dropOldest, receive, h]
  rfl

theorem push_of_room (event : Event) (hopen : q.closed = false)
    (hroom : q.waiting.length < q.capacity) :
    q.push event = { q with waiting := q.waiting ++ [event] } := by
  rw [push, if_neg (by simp [hopen]), trySend_of_room event hroom]

theorem push_of_full {oldest : Event} {rest : List Event} (event : Event)
    (hopen : q.closed = false) (hfull : q.waiting.length = q.capacity)
    (hwaiting : q.waiting = oldest :: rest) :
    q.push event = { q with waiting := rest ++ [event], dropped := q.dropped + 1 } := by
  -- The event that is dropped makes just the room that the second try needs.
  have hroom : q.dropOldest.waiting.length < q.dropOldest.capacity := by
    rw [hwaiting, List.length_cons] at hfull
    rw [dropOldest_of_cons hwaiting]
    simp only
    omega
  rw [push, if_neg (by simp [hopen]), trySend_of_full event hfull]
  simp only
  rw [trySend_of_room event hroom, Option.getD_some, dropOldest_of_cons hwaiting]

theorem waiting_eq_receive (q : EventQueue) :
    q.waiting = q.receive.1.toList ++ q.receive.2.waiting := by
  unfold receive
  cases q.waiting <;> rfl

end EventQueue

namespace Feed

variable {f : Feed} {call : FeedCall} {event : Event}

/-- What a push can do. -/
inductive Pushed (f : Feed) (event : Event) : Feed → Prop where
  | refused : ¬f.Open → Pushed f event f
  | room : f.Open → f.queue.waiting.length < f.queue.capacity →
    Pushed f event { f with queue := { f.queue with waiting := f.queue.waiting ++ [event] } }
  /-- The oldest event is lost. -/
  | full {oldest : Event} {rest : List Event} : f.Open →
    f.queue.waiting.length = f.queue.capacity → f.queue.waiting = oldest :: rest →
    Pushed f event { f with queue :=
      { f.queue with waiting := rest ++ [event], dropped := f.queue.dropped + 1 } }

/-- There is room for one event at least, and no more wait than there is room for. -/
structure Fits (f : Feed) : Prop where
  room : 1 ≤ f.queue.capacity
  length_le : f.queue.waiting.length ≤ f.queue.capacity

theorem not_open_of_closed (h : f.queue.closed = true) : ¬f.Open :=
  fun hopen => by simp [hopen.1] at h

theorem push_of_open (h : f.Open) (event : Event) :
    f.push event = { f with queue := f.queue.push event } := if_neg (by simp [h.2])

theorem push_of_shut (h : ¬f.Open) (event : Event) : f.push event = f := by
  unfold push
  split
  · rfl
  · have hclosed : f.queue.closed = true := by
      by_contra hopen
      exact h ⟨by simpa using hopen, by simpa using ‹¬f.abandoned = true›⟩
    rw [EventQueue.push, if_pos hclosed]

theorem push_pushed (h : f.Fits) (event : Event) : f.Pushed event (f.push event) := by
  by_cases hopen : f.Open
  · rw [push_of_open hopen]
    rcases Nat.lt_or_eq_of_le h.length_le with hroom | hfull
    · rw [EventQueue.push_of_room event hopen.1 hroom]
      exact .room hopen hroom
    · have hpos : 0 < f.queue.waiting.length := hfull ▸ h.room
      obtain ⟨oldest, rest, hwaiting⟩ := List.exists_cons_of_length_pos hpos
      rw [EventQueue.push_of_full event hopen.1 hfull hwaiting]
      exact .full hopen hfull hwaiting
  · rw [push_of_shut hopen]
    exact .refused hopen

/-! ## One call -/

/-- Each event that was waiting or is offered has one fate, or waits after the call. -/
structure Moves (f : Feed) (call : FeedCall) (fates : List (Event × Option Taker)) (g : Feed) :
    Prop where
  capacity_eq : g.queue.capacity = f.queue.capacity
  length_le : g.queue.waiting.length ≤ g.queue.capacity
  closed_iff : g.queue.closed = true ↔ f.queue.closed = true ∨ call = .close
  waiting_eq : f.queue.waiting ++ f.offered call = fates.map (·.1) ++ g.queue.waiting
  delivered_eq : f.delivered call = fates.filterMap fun x => x.2.map (x.1, ·)
  dropped_eq : g.queue.dropped = f.queue.dropped + fates.countP (·.2.isNone)

theorem Moves.taken {g : Feed} (h : f.Fits) (taker : Taker) (events rest : List Event)
    (hcall : call ≠ .close) (hoffered : f.offered call = [])
    (hwaiting : f.queue.waiting = events ++ rest)
    (hdelivered : f.delivered call = events.map (·, taker))
    (hqueue : g.queue = { f.queue with waiting := rest }) :
    f.Moves call (events.map (·, some taker)) g where
  capacity_eq := by rw [hqueue]
  length_le := by
    have hle := h.length_le
    rw [hwaiting, List.length_append] at hle
    rw [hqueue]
    simp only
    omega
  closed_iff := by simp [hqueue, hcall]
  waiting_eq := by
    rw [hoffered, List.append_nil, hwaiting, hqueue, List.map_map]
    simp [Function.comp_def]
  delivered_eq := by
    rw [hdelivered, List.filterMap_map]
    simp
  dropped_eq := by
    rw [hqueue]
    simp

theorem moves_push (h : f.Fits) (event : Event) :
    ∃ fates, f.Moves (.push event) fates (f.push event) := by
  have hpushed := push_pushed h event
  generalize f.push event = g at hpushed
  cases hpushed with
  | refused hshut =>
    have hoffered : f.offered (.push event) = [] := if_neg hshut
    exact ⟨_, .taken h .consumer [] _ (by simp) hoffered rfl rfl rfl⟩
  | room hopen hroom =>
    have hoffered : f.offered (.push event) = [event] := if_pos hopen
    refine ⟨[], rfl, ?_, by simp, ?_, rfl, rfl⟩
    · simpa using hroom
    · simp [hoffered]
  | @full oldest rest hopen hfull hwaiting =>
    have hoffered : f.offered (.push event) = [event] := if_pos hopen
    -- One event leaves at the front and one comes in at the back.
    refine ⟨[(oldest, none)], rfl, ?_, by simp, ?_, rfl, rfl⟩
    · rw [hwaiting] at hfull
      simpa using hfull.le
    · simp [hoffered, hwaiting]

theorem moves_take (h : f.Fits) : ∃ fates, f.Moves .take fates f.takeNext := by
  by_cases hworking : f.Working
  · obtain ⟨totals, hworker⟩ := working_iff.mp hworking
    have hdelivered : f.delivered .take = f.queue.receive.1.toList.map (·, .worker) := by
      rw [delivered, applied, if_pos hworking]
      rfl
    rw [takeNext_of_running hworker]
    exact ⟨_, .taken h .worker _ _ (by simp) rfl f.queue.waiting_eq_receive hdelivered rfl⟩
  · have hdelivered : f.delivered .take = [] := by
      rw [delivered, applied, if_neg hworking]
      rfl
    rw [takeNext_of_idle hworking]
    exact ⟨_, .taken h .worker [] _ (by simp) rfl rfl hdelivered rfl⟩

theorem moves_worker (h : f.Fits) (hcall : call ∈ workerCalls) :
    ∃ fates, f.Moves call fates (f.call call) := by
  obtain ⟨hclose, hoffered, hdelivered⟩ := f.workerCalls_give hcall
  by_cases hsettles : f.Settles call
  · obtain ⟨hqueue, -, happlied⟩ := call_settled hsettles
    rw [happlied] at hdelivered
    exact ⟨_, .taken h .worker _ [] hclose hoffered (List.append_nil _).symm hdelivered hqueue⟩
  · obtain ⟨hqueue, -, happlied⟩ := call_unsettled hcall hsettles
    rw [happlied] at hdelivered
    exact ⟨_, .taken h .worker [] _ hclose hoffered rfl hdelivered hqueue⟩

theorem moves_call (h : f.Fits) (call : FeedCall) : ∃ fates, f.Moves call fates (f.call call) := by
  by_cases hcall : call ∈ workerCalls
  · exact moves_worker h hcall
  cases call with
  | push event => exact moves_push h event
  | take => exact moves_take h
  | close =>
    exact ⟨[], rfl, h.length_le, by simp [Feed.call, close, EventQueue.close],
      List.append_nil _, rfl, rfl⟩
  | receive =>
    exact ⟨_, .taken h .consumer _ _ (by simp) rfl f.queue.waiting_eq_receive (List.append_nil _)
      rfl⟩
  | drain =>
    exact ⟨_, .taken h .consumer _ [] (by simp) rfl (List.append_nil _).symm
      (List.append_nil _) rfl⟩
  | _ => simp [workerCalls] at hcall

theorem fits_call (h : f.Fits) (call : FeedCall) : (f.call call).Fits := by
  obtain ⟨fates, hmoves⟩ := moves_call h call
  exact ⟨hmoves.capacity_eq ▸ h.room, hmoves.length_le⟩

/-! ## Runs -/

section

variable (queueCapacity : Nat) (sketch : Sketch) (calls : List FeedCall)

theorem fits_after : ((empty queueCapacity sketch).after calls).Fits ∧
    ((empty queueCapacity sketch).after calls).queue.capacity = max queueCapacity 1 := by
  induction calls using List.reverseRecOn with
  | nil => exact ⟨⟨Nat.le_max_right _ _, Nat.zero_le _⟩, rfl⟩
  | append_singleton calls call ih =>
    obtain ⟨hfits, hcapacity⟩ := ih
    obtain ⟨fates, hmoves⟩ := moves_call hfits call
    rw [after_concat]
    exact ⟨fits_call hfits call, hmoves.capacity_eq.trans hcapacity⟩

theorem fates_after : ∃ fates : List (Event × Option Taker),
    (empty queueCapacity sketch).along offered calls =
        fates.map (·.1) ++ ((empty queueCapacity sketch).after calls).queue.waiting ∧
      (empty queueCapacity sketch).along delivered calls =
        fates.filterMap (fun x => x.2.map (x.1, ·)) ∧
      ((empty queueCapacity sketch).after calls).queue.dropped = fates.countP (·.2.isNone) := by
  induction calls using List.reverseRecOn with
  | nil => exact ⟨[], rfl, rfl, rfl⟩
  | append_singleton calls call ih =>
    obtain ⟨fates, hoffered, hdelivered, hdropped⟩ := ih
    obtain ⟨more, hmoves⟩ := moves_call (fits_after queueCapacity sketch calls).1 call
    refine ⟨fates ++ more, ?_, ?_, ?_⟩
    · rw [along_concat, hoffered, List.append_assoc, hmoves.waiting_eq, after_concat,
        List.map_append, List.append_assoc]
    · rw [along_concat, hdelivered, hmoves.delivered_eq, List.filterMap_append]
    · rw [after_concat, hmoves.dropped_eq, hdropped, List.countP_append]

theorem closed_after :
    ((empty queueCapacity sketch).after calls).queue.closed = true ↔ .close ∈ calls := by
  induction calls using List.reverseRecOn with
  | nil => simp [after, empty, EventQueue.empty]
  | append_singleton calls call ih =>
    obtain ⟨fates, hmoves⟩ := moves_call (fits_after queueCapacity sketch calls).1 call
    rw [after_concat, hmoves.closed_iff, ih, List.mem_append, List.mem_singleton, eq_comm]

end

/-- Whatever takes place, the events given to the open queue have one fate each, in the order of
the pushes, but for those that still wait. A push loses the oldest event, and only to a full
queue. Nothing waits when the worker answers or goes, and the sketch and the totals tell what
the worker has taken. -/
theorem events_conserved (queueCapacity : Nat) (sketch : Sketch) (calls : List FeedCall) :
    let new := empty queueCapacity sketch
    let f := new.after calls
    (f.queue.capacity = max queueCapacity 1 ∧ f.queue.waiting.length ≤ f.queue.capacity) ∧
    (∃ fates : List (Event × Option Taker),
      new.along offered calls = fates.map (·.1) ++ f.queue.waiting ∧
        new.along delivered calls = fates.filterMap (fun x => x.2.map (x.1, ·)) ∧
        f.queue.dropped = fates.countP (·.2.isNone)) ∧
    (∀ event, f.Pushed event (f.push event)) ∧
    ((.close ∈ calls → ∀ event, f.push event = f) ∧
      f.receive.1 = f.queue.waiting.head? ∧ f.drain.1 = f.queue.waiting) ∧
    (∀ call, f.Settles call →
      (f.call call).queue.waiting = [] ∧ f.applied call = f.queue.waiting) ∧
    f.sketch = ((new.along applied calls).filterMap Event.hash?).foldl Sketch.increment sketch ∧
    (∀ before later, calls = before ++ .spawn :: later → .spawn ∉ later →
      f.shutdown.1 = if .shutdown ∈ later then none
        else some (.tally ((new.after before).along applied (.spawn :: later ++ [.shutdown])))) ∧
    (.spawn ∉ calls → f.shutdown.1 = none) := by
  intro new f
  obtain ⟨hfits, hcapacity⟩ := fits_after queueCapacity sketch calls
  have hpushed : ∀ event, f.Pushed event (f.push event) := push_pushed hfits
  refine ⟨⟨hcapacity, hfits.length_le⟩, fates_after queueCapacity sketch calls, hpushed,
    ⟨?_, rfl, rfl⟩, ?_, ?_, ?_, ?_⟩
  · intro hclose event
    have hclosed : f.queue.closed = true := (closed_after queueCapacity sketch calls).mpr hclose
    exact push_of_shut (not_open_of_closed hclosed) event
  · intro call hsettles
    obtain ⟨hqueue, -, happlied⟩ := call_settled hsettles
    exact ⟨congrArg EventQueue.waiting hqueue, happlied⟩
  · rw [← foldl_learn]
    exact sketch_after new calls
  · intro before later hcalls hspawn
    have hafter : f = (new.after before).after (.spawn :: later) := by
      rw [← after_append, ← hcalls]
    rw [hafter]
    exact shutdown_after_spawn hspawn _
  · intro hspawn
    exact shutdown_after_no_spawn hspawn rfl

end Feed

end LfuCache
