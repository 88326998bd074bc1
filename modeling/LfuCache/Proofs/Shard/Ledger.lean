import Mathlib
import LfuCache.Proofs.Shard.Bookings

/-!
# The ledger of a shard

What a new shard has counted, how many entries it holds and how its used cost has moved can all
be read off the answers that it has given. Each entry that leaves is counted once, and reported
once, by the call that has met it.
-/

namespace LfuCache

/-! ## Answers and visits -/

namespace ShardAnswer

/-- The entries that a call has taken out one by one. -/
def removals : ShardAnswer → List Removal
  | .found lookup => lookup.expired.toList
  | .wrote result => result.removed
  | .deleted removal => removal.toList
  | .swept removals => removals
  | .failed _ | .cleared _ => []

def outcome? : ShardAnswer → Option Outcome
  | .found lookup => some (if lookup.value.isSome then .hit else .miss)
  | .wrote result => some (if result.admitted then .set else .rejection)
  | _ => none

theorem outcome?_ne (answer : ShardAnswer) :
    answer.outcome? ≠ some .eviction ∧ answer.outcome? ≠ some .expiration := by
  cases answer with
  | found lookup => cases hvalue : lookup.value <;> simp [outcome?, hvalue]
  | wrote result => cases hadmitted : result.admitted <;> simp [outcome?, hadmitted]
  | _ => simp [outcome?]

end ShardAnswer

/-- A call and the shard that it meets. -/
structure Visit where
  before : Shard
  call : ShardCall

namespace Visit

def answer (v : Visit) : ShardAnswer := (v.before.call v.call).1

def after (v : Visit) : Shard := (v.before.call v.call).2

def isGet (v : Visit) : Bool :=
  match v.call with
  | .get _ _ _ => true
  | _ => false

/-- A write that did not fail, and if it was let in. -/
def admitted? (v : Visit) : Option Bool :=
  match v.answer with
  | .wrote result => some result.admitted
  | _ => none

/-- A write was let in whose key was not live. -/
def enters (v : Visit) : Bool :=
  match v.call with
  | .set _ key _ _ _ _ now => v.admitted? = some true ∧ v.before.Vacant key now
  | _ => false

def costIn (v : Visit) : Nat :=
  match v.call with
  | .set _ _ _ _ cost _ _ => if v.admitted? = some true then cost else 0
  | _ => 0

/-- The cost of the live entry that a write has gone over. -/
def costReplaced (v : Visit) : Nat :=
  match v.call with
  | .set _ key _ _ _ _ now => if v.admitted? = some true then v.before.liveCost key now else 0
  | _ => 0

/-- All that the shard counts in this call. -/
def outcomes (v : Visit) : List Outcome :=
  v.answer.outcome?.toList ++ countedRemovals v.answer.removals

def cleared (v : Visit) : Nat :=
  match v.answer with
  | .cleared count => count
  | _ => 0

theorem isGet_eq (v : Visit) :
    v.isGet = match v.answer with
      | .found _ => true
      | _ => false := by
  obtain ⟨s, call⟩ := v
  cases call with
  | set frequency key hash value cost expiresAt now =>
    simp only [answer, Shard.call]
    cases s.set frequency key hash value cost expiresAt now <;> rfl
  | _ => rfl

theorem cleared_eq_zero {v : Visit} (hcall : v.call ≠ .clear) : v.cleared = 0 := by
  obtain ⟨s, call⟩ := v
  cases call with
  | clear => exact absurd rfl hcall
  | set frequency key hash value cost expiresAt now =>
    simp only [cleared, answer, Shard.call]
    cases s.set frequency key hash value cost expiresAt now <;> rfl
  | _ => rfl

end Visit

namespace Shard

def visits (s : Shard) : List ShardCall → List Visit
  | [] => []
  | call :: calls => ⟨s, call⟩ :: (s.call call).2.visits calls

theorem booked_visit {v : Visit} (hs : v.before.Accounted) (hcall : v.call ≠ .clear) :
    Booked v.before v.answer.outcome?.toList (if v.enters then 1 else 0)
      (v.costIn - v.costReplaced) v.answer.removals v.after := by
  obtain ⟨s, call⟩ := v
  cases call with
  | get frequency key now => exact booked_get hs frequency key now
  | delete key now => exact booked_delete hs key now
  | clear => exact absurd rfl hcall
  | removeExpired order now => exact .removeAll hs .expired _
  | set frequency key hash value cost expiresAt now =>
    cases hset : s.set frequency key hash value cost expiresAt now with
    | error e =>
      have hcall : s.call (.set frequency key hash value cost expiresAt now) = (.failed e, s) := by
        simp only [Shard.call, hset]
      simp only [Visit.answer, Visit.after, Visit.enters, Visit.costIn, Visit.costReplaced,
        Visit.admitted?, hcall]
      exact .of_same rfl rfl rfl
    | ok answer =>
      obtain ⟨result, t⟩ := answer
      have hcall : s.call (.set frequency key hash value cost expiresAt now) =
          (.wrote result, t) := by
        simp only [Shard.call, hset]
      simp only [Visit.answer, Visit.after, Visit.enters, Visit.costIn, Visit.costReplaced,
        Visit.admitted?, hcall]
      have hbooked := booked_set hs hset
      cases hadmitted : result.admitted with
      | true => simpa [hadmitted, ShardAnswer.outcome?, ShardAnswer.removals] using hbooked
      | false => simpa [hadmitted, ShardAnswer.outcome?, ShardAnswer.removals] using hbooked

theorem counters_visit {v : Visit} (hs : v.before.Accounted) (outcome : Outcome) :
    v.after.counters.of outcome = v.before.counters.of outcome + v.outcomes.count outcome := by
  by_cases hclear : v.call = .clear
  · -- A clear counts nothing and reports nothing.
    obtain ⟨s, call⟩ := v
    obtain rfl := hclear
    rfl
  · rw [(booked_visit hs hclear).counters_eq, Visit.outcomes, List.count_append, Nat.add_assoc]

theorem size_visit {v : Visit} (hs : v.before.Accounted) :
    (v.after.size : ℤ) =
      v.before.size + (if v.enters then 1 else 0) - v.answer.removals.length - v.cleared := by
  by_cases hclear : v.call = .clear
  · obtain ⟨s, call⟩ := v
    obtain rfl := hclear
    simp [Visit.after, Visit.answer, Visit.enters, Visit.cleared, Shard.call, clear, size,
      ShardAnswer.removals]
  · rw [(booked_visit hs hclear).size_eq, Visit.cleared_eq_zero hclear]
    simp

/-! ## Runs -/

theorem counters_after {s : Shard} (hs : s.Accounted) (calls : List ShardCall) (outcome : Outcome) :
    (s.after calls).counters.of outcome =
      s.counters.of outcome + ((s.visits calls).flatMap (·.outcomes)).count outcome := by
  induction calls generalizing s with
  | nil => rfl
  | cons call calls ih =>
    rw [after_cons, ih (hs.call call), visits, List.flatMap_cons, List.count_append]
    rw [← Nat.add_assoc, ← counters_visit (v := ⟨s, call⟩) hs outcome]
    rfl

theorem size_after {s : Shard} (hs : s.Accounted) (calls : List ShardCall) :
    ((s.after calls).size : ℤ) = s.size + (s.visits calls).countP (·.enters) -
      ((s.visits calls).flatMap (·.answer.removals)).length -
        ((s.visits calls).map (·.cleared)).sum := by
  induction calls generalizing s with
  | nil => simp [visits, after]
  | cons call calls ih =>
    have hvisit : ((s.call call).2.size : ℤ) = _ := size_visit (v := ⟨s, call⟩) hs
    rw [after_cons, ih (hs.call call), hvisit, visits, List.countP_cons, List.flatMap_cons,
      List.length_append, List.map_cons, List.sum_cons]
    simp only [Nat.cast_add, Nat.cast_ite, Nat.cast_one, Nat.cast_zero]
    ring

theorem accounted_before {s : Shard} (hs : s.Accounted) {calls : List ShardCall} {v : Visit}
    (hv : v ∈ s.visits calls) : v.before.Accounted := by
  induction calls generalizing s with
  | nil => exact absurd hv (by simp [visits])
  | cons call calls ih =>
    rcases List.mem_cons.mp hv with rfl | hv
    · exact hs
    · exact ih (hs.call call) hv

/-! ## Counting by answers -/

theorem count_countedRemovals (removals : List Removal) (outcome : Outcome) :
    (countedRemovals removals).count outcome =
      removals.countP fun r => r.cause.outcome? == some outcome := List.count_filterMap

theorem count_outcomes (log : List Visit) (outcome : Outcome) :
    (log.flatMap (·.outcomes)).count outcome =
      log.countP (fun v => v.answer.outcome? == some outcome) +
        (log.flatMap (·.answer.removals)).countP (fun r => r.cause.outcome? == some outcome) := by
  induction log with
  | nil => rfl
  | cons v log ih =>
    have hone : v.answer.outcome?.toList.count outcome =
        if v.answer.outcome? == some outcome then 1 else 0 := by
      cases v.answer.outcome? <;> simp [List.count_singleton]
    rw [List.flatMap_cons, List.flatMap_cons, List.count_append, List.countP_append,
      List.countP_cons, ih, Visit.outcomes, List.count_append, hone, count_countedRemovals]
    omega

theorem countP_removals_eq_zero {outcome : Outcome} (hcall : outcome ≠ .eviction)
    (htime : outcome ≠ .expiration) (removals : List Removal) :
    removals.countP (fun r => r.cause.outcome? == some outcome) = 0 := by
  rw [List.countP_eq_zero]
  intro r _
  cases r.cause <;> simp [RemovalCause.outcome?, Ne.symm hcall, Ne.symm htime]

theorem countP_answers_eq_zero {outcome : Outcome}
    (h : outcome = .eviction ∨ outcome = .expiration) (log : List Visit) :
    log.countP (fun v => v.answer.outcome? == some outcome) = 0 := by
  rw [List.countP_eq_zero]
  intro v _
  obtain ⟨heviction, hexpiration⟩ := v.answer.outcome?_ne
  rcases h with rfl | rfl
  · simpa using heviction
  · simpa using hexpiration

theorem count_gets (log : List Visit) :
    (log.flatMap (·.outcomes)).count .hit + (log.flatMap (·.outcomes)).count .miss =
      log.countP (·.isGet) := by
  rw [count_outcomes, count_outcomes, countP_removals_eq_zero (by decide) (by decide),
    countP_removals_eq_zero (by decide) (by decide), Nat.add_zero, Nat.add_zero]
  induction log with
  | nil => rfl
  | cons v log ih =>
    have hone : ((if v.answer.outcome? == some .hit then 1 else 0) +
        if v.answer.outcome? == some .miss then 1 else 0) = if v.isGet then 1 else 0 := by
      rw [v.isGet_eq]
      cases v.answer with
      | found lookup =>
        obtain ⟨value, expired⟩ := lookup
        cases value <;> rfl
      | wrote result =>
        obtain ⟨admitted, removed⟩ := result
        cases admitted <;> rfl
      | _ => rfl
    rw [List.countP_cons, List.countP_cons, List.countP_cons, ← ih, ← hone]
    omega

theorem count_writes (log : List Visit) (admitted : Bool) :
    (log.flatMap (·.outcomes)).count (if admitted then .set else .rejection) =
      log.countP (·.admitted? = some admitted) := by
  rw [count_outcomes, countP_removals_eq_zero (by cases admitted <;> decide)
    (by cases admitted <;> decide), Nat.add_zero]
  congr 1
  funext v
  rw [Visit.admitted?]
  cases v.answer with
  | found lookup =>
    obtain ⟨value, expired⟩ := lookup
    cases value <;> cases admitted <;> rfl
  | wrote result =>
    obtain ⟨stored, removed⟩ := result
    cases stored <;> cases admitted <;> rfl
  | _ => cases admitted <;> rfl

theorem count_removals (log : List Visit) :
    (log.flatMap (·.outcomes)).count .eviction =
        (log.flatMap (·.answer.removals)).countP (·.cause = .evicted) ∧
      (log.flatMap (·.outcomes)).count .expiration =
        (log.flatMap (·.answer.removals)).countP (·.cause = .expired) := by
  rw [count_outcomes, count_outcomes, countP_answers_eq_zero (.inl rfl),
    countP_answers_eq_zero (.inr rfl), Nat.zero_add, Nat.zero_add]
  constructor
  · congr 1
    funext r
    cases r.cause <;> rfl
  · congr 1
    funext r
    cases r.cause <;> rfl

/-! ## A new shard -/

/-- The counters and the size are those of the log, and each call has moved the used cost by
what it let in and what it reports. -/
structure Balanced (s : Shard) (log : List Visit) : Prop where
  gets : s.counters.hits + s.counters.misses = log.countP (·.isGet)
  sets : s.counters.sets = log.countP (·.admitted? = some true)
  rejections : s.counters.rejections = log.countP (·.admitted? = some false)
  evictions : s.counters.evictions =
    (log.flatMap (·.answer.removals)).countP (·.cause = .evicted)
  expirations : s.counters.expirations =
    (log.flatMap (·.answer.removals)).countP (·.cause = .expired)
  size : (s.size : ℤ) = log.countP (·.enters) - (log.flatMap (·.answer.removals)).length -
    (log.map (·.cleared)).sum
  used : ∀ visit ∈ log, visit.call ≠ .clear → (visit.after.used : ℤ) =
    visit.before.used + (visit.costIn - visit.costReplaced) -
      (visit.answer.removals.map (·.cost)).sum

theorem balanced_after (capacity windowCapacity sampleSize : Nat) (random : Generator)
    (calls : List ShardCall) :
    let new := empty capacity (.empty windowCapacity sampleSize random)
    (new.after calls).Balanced (new.visits calls) := by
  intro new
  have hnew : new.Accounted := accounted_empty capacity windowCapacity sampleSize random
  have hcounters : ∀ o, (new.after calls).counters.of o =
      ((new.visits calls).flatMap (·.outcomes)).count o := by
    intro o
    rw [counters_after hnew]
    cases o <;> exact Nat.zero_add _
  refine ⟨?_, ?_, ?_, ?_, ?_, ?_, ?_⟩
  · rw [← count_gets, ← hcounters, ← hcounters]
    rfl
  · rw [← count_writes, ← hcounters]
    rfl
  · rw [← count_writes, ← hcounters]
    rfl
  · rw [← (count_removals _).1, ← hcounters]
    rfl
  · rw [← (count_removals _).2, ← hcounters]
    rfl
  · have hsize := size_after hnew calls
    have hzero : new.size = 0 := rfl
    rw [hsize, hzero]
    simp
  · intro visit hvisit hcall
    exact (booked_visit (accounted_before hnew hvisit) hcall).used_eq

end Shard

end LfuCache
