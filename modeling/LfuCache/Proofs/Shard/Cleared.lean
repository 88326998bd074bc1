import Mathlib
import LfuCache.Proofs.Placement.Arrivals
import LfuCache.Proofs.Shard.Ledger

/-!
# Cleared shards

A shard that was cleared is a new shard, but for two things: its arrival numbers go on, and so do
its counters. Neither is seen by any later call.
-/

namespace LfuCache.Shard

open Admission (Agree)

/-! ## Two shards side by side -/

/-- The second shard has come to its arrival numbers later, and has counted something before. -/
inductive Ahead (gap : Nat) (counted : Counters) : Shard → Shard → Prop where
  | mk {s : Shard} {placement : Placement} {counters : Counters} :
    Placement.Later gap s.placement placement →
    (∀ outcome, counters.of outcome = s.counters.of outcome + counted.of outcome) →
    Ahead gap counted s { s with placement, counters }

variable {gap : Nat} {counted : Counters} {s t : Shard}

namespace Ahead

/-! ## What is the same -/

theorem entries (h : Ahead gap counted s t) : t.entries = s.entries := by
  cases h
  rfl

theorem capacity (h : Ahead gap counted s t) : t.capacity = s.capacity := by
  cases h
  rfl

theorem used (h : Ahead gap counted s t) : t.used = s.used := by
  cases h
  rfl

theorem size (h : Ahead gap counted s t) : t.size = s.size := by
  rw [Shard.size, h.entries, Shard.size]

theorem placement (h : Ahead gap counted s t) : Placement.Later gap s.placement t.placement := by
  cases h
  assumption

theorem counters (h : Ahead gap counted s t) (outcome : Outcome) :
    t.counters.of outcome = s.counters.of outcome + counted.of outcome := by
  cases h with
  | mk _ hcounters => exact hcounters outcome

/-! ## Shared steps -/

theorem withPlacement (h : Ahead gap counted s t) {p q : Placement}
    (hlater : Placement.Later gap p q) :
    Ahead gap counted { s with placement := p } { t with placement := q } := by
  obtain ⟨-, hcounters⟩ := h
  exact .mk hlater hcounters

theorem record (h : Ahead gap counted s t) (outcome : Outcome) :
    Ahead gap counted (s.record outcome) (t.record outcome) := by
  obtain ⟨hlater, hcounters⟩ := h
  refine .mk hlater fun other => ?_
  rw [Counters.of_record, hcounters, Shard.record, Counters.of_record]
  omega

theorem recordRemoval (h : Ahead gap counted s t) (cause : RemovalCause) :
    Ahead gap counted (s.recordRemoval cause) (t.recordRemoval cause) := by
  cases cause with
  | deleted => exact h
  | evicted => exact h.record .eviction
  | expired => exact h.record .expiration

theorem without (h : Ahead gap counted s t) (key : Key) (entry : Entry) :
    Ahead gap counted (s.without key entry) (t.without key entry) := by
  obtain ⟨hlater, hcounters⟩ := h
  exact .mk (hlater.remove key entry.segment entry.cost) hcounters

theorem removeEntry (h : Ahead gap counted s t) (key : Key) (cause : RemovalCause) :
    Agree (Ahead gap counted) (s.removeEntry key cause) (t.removeEntry key cause) := by
  unfold Shard.removeEntry
  rw [h.entries]
  cases s.entries[key]? with
  | none => exact ⟨rfl, h⟩
  | some entry => exact ⟨rfl, (h.without key entry).recordRemoval cause⟩

theorem removeAll (h : Ahead gap counted s t) (cause : RemovalCause) (keys : List Key) :
    Agree (Ahead gap counted) (removeAll cause keys s) (removeAll cause keys t) := by
  induction keys generalizing s t with
  | nil => exact ⟨rfl, h⟩
  | cons key keys ih =>
    have hone := h.removeEntry key cause
    have hrest := ih hone.state
    rw [removeAll_cons, removeAll_cons, hone.answer, hrest.answer]
    exact ⟨rfl, hrest.state⟩

theorem promote (h : Ahead gap counted s t) (key : Key) (cost : Nat) :
    Ahead gap counted (s.promote key cost) (t.promote key cost) := by
  have hmoved := h.placement.promote key cost
  unfold Shard.promote
  generalize s.placement.promote key cost = first at hmoved ⊢
  generalize t.placement.promote key cost = second at hmoved ⊢
  obtain ⟨moved, p⟩ := first
  obtain ⟨other, q⟩ := second
  obtain ⟨hsame, hlater⟩ := hmoved
  cases hsame
  cases moved with
  | false => exact h
  | true =>
    obtain ⟨-, hcounters⟩ := h
    exact .mk hlater hcounters

theorem touch (h : Ahead gap counted s t) (frequency : UInt64 → Nat) (key : Key) (entry : Entry)
    (hash : UInt64) :
    Ahead gap counted (s.touch frequency key entry hash) (t.touch frequency key entry hash) := by
  unfold Shard.touch
  split
  · exact h.promote key entry.cost
  · exact h

end Ahead

theorem sampleVictims_agree {p q : Placement} (h : Placement.Later gap p q)
    (entries : Std.TreeMap Key Entry) (exclude : List Key) :
    Agree (Placement.Later gap) (sampleVictims entries exclude p)
      (sampleVictims entries exclude q) := by
  obtain ⟨hkeys, hlater⟩ := h.sample exclude
  exact ⟨congrArg (victimsFor entries) hkeys, hlater⟩

/-! ## Admissions in two parts -/

/-- The decision on a new key. If there is none, the key is refused. -/
def judged (s : Shard) (frequency : UInt64 → Nat) (hash : UInt64) (cost : Nat) :
    Decision × Placement :=
  (Admission.judge frequency hash (s.used + cost - s.capacity) (sampleVictims s.entries)
    (s.size + 1) s.placement).getD (.refuse, s.placement)

/-- What follows from a decision. -/
def decided (s : Shard) (decision : Decision) (key : Key) (hash : UInt64) (value : ByteArray)
    (cost : Nat) (expiresAt : Option Instant) : SetResult × Shard :=
  match decision with
  | .refuse => (⟨false, []⟩, s.record .rejection)
  | .fits => (⟨true, []⟩, (s.store key hash value cost expiresAt).record .set)
  | .displace keys =>
    let (removed, s) := removeAll .evicted keys s
    (⟨true, removed⟩, (s.store key hash value cost expiresAt).record .set)

theorem tryAdmit_eq (s : Shard) (frequency : UInt64 → Nat) (key : Key) (hash : UInt64)
    (value : ByteArray) (cost : Nat) (expiresAt : Option Instant) :
    s.tryAdmit frequency key hash value cost expiresAt =
      decided { s with placement := (s.judged frequency hash cost).2 }
        (s.judged frequency hash cost).1 key hash value cost expiresAt := rfl

namespace Ahead

/-! ## Reads and deletes -/

theorem get (h : Ahead gap counted s t) (frequency : UInt64 → Nat) (key : Key) (now : Instant) :
    Agree (Ahead gap counted) (s.get frequency key now) (t.get frequency key now) := by
  unfold Shard.get
  rw [h.entries]
  cases s.entries[key]? with
  | none => exact ⟨rfl, h.record .miss⟩
  | some entry =>
    dsimp only
    split
    · have hone := (h.record .miss).removeEntry key .expired
      exact ⟨congrArg (Lookup.mk none) hone.answer, hone.state⟩
    · exact ⟨rfl, (h.record .hit).touch frequency key entry entry.hash⟩

theorem delete (h : Ahead gap counted s t) (key : Key) (now : Instant) :
    Agree (Ahead gap counted) (s.delete key now) (t.delete key now) := by
  unfold Shard.delete
  rw [h.entries]
  cases s.entries[key]? with
  | none => exact ⟨rfl, h⟩
  | some entry => exact h.removeEntry key _

/-! ## Writes -/

theorem sampleVictims (h : Ahead gap counted s t) (exclude : List Key) :
    Agree (Placement.Later gap) (sampleVictims s.entries exclude s.placement)
      (sampleVictims t.entries exclude t.placement) := by
  rw [h.entries]
  exact sampleVictims_agree h.placement s.entries exclude

theorem nextVictim (h : Ahead gap counted s t) (frequency : UInt64 → Nat) (keep : Key) :
    t.nextVictim frequency keep = s.nextVictim frequency keep := by
  rw [Shard.nextVictim, (h.sampleVictims [keep]).answer, Shard.nextVictim]

theorem sampled (h : Ahead gap counted s t) (keep : Key) :
    Ahead gap counted (s.sampled keep) (t.sampled keep) :=
  h.withPlacement (h.sampleVictims [keep]).state

theorem shrink (h : Ahead gap counted s t) (frequency : UInt64 → Nat) (keep : Key) (turns : Nat) :
    Agree (Ahead gap counted) (shrink frequency keep turns s) (shrink frequency keep turns t) := by
  induction turns generalizing s t with
  | zero => exact ⟨rfl, h⟩
  | succ turns ih =>
    have hcapacity := h.capacity
    have hused := h.used
    have hvictim := h.nextVictim frequency keep
    by_cases hover : s.capacity < s.used
    · cases hnext : s.nextVictim frequency keep with
      | none =>
        rw [shrink_of_none hover hnext, shrink_of_none (by omega) (hvictim.trans hnext)]
        exact ⟨rfl, h.sampled keep⟩
      | some v =>
        have hone := (h.sampled keep).removeEntry v.key .evicted
        have hrest := ih hone.state
        rw [shrink_of_some hover hnext, shrink_of_some (by omega) (hvictim.trans hnext)]
        refine ⟨?_, hrest.state⟩
        rw [hone.answer, afterTurn, hrest.answer, afterTurn]
    · rw [shrink_of_le (by omega), shrink_of_le (by omega)]
      exact ⟨rfl, h⟩

theorem revise (h : Ahead gap counted s t) (key : Key) (entry : Entry) (value : ByteArray)
    (cost : Nat) (expiresAt : Option Instant) :
    Ahead gap counted (s.revise key entry value cost expiresAt)
      (t.revise key entry value cost expiresAt) := by
  obtain ⟨hlater, hcounters⟩ := h
  exact .mk (hlater.adjustCost entry.segment entry.cost cost) hcounters

theorem rewrite (h : Ahead gap counted s t) (key : Key) (value : ByteArray) (cost : Nat)
    (expiresAt : Option Instant) :
    Ahead gap counted (s.rewrite key value cost expiresAt) (t.rewrite key value cost expiresAt) := by
  unfold Shard.rewrite
  rw [h.entries]
  cases s.entries[key]? with
  | none => exact h
  | some entry =>
    have hrevised := h.revise key entry value cost expiresAt
    dsimp only
    rw [hrevised.placement.windowCapacity, hrevised.placement.windowCost]
    split
    · exact hrevised.promote key cost
    · exact hrevised

theorem overwrite (h : Ahead gap counted s t) (frequency : UInt64 → Nat) (key : Key)
    (entry : Entry) (hash : UInt64) (value : ByteArray) (cost : Nat)
    (expiresAt : Option Instant) :
    Agree (Ahead gap counted) (s.overwrite frequency key entry hash value cost expiresAt)
      (t.overwrite frequency key entry hash value cost expiresAt) := by
  have hwritten := (h.touch frequency key entry hash).rewrite key value cost expiresAt
  have hshrunk := hwritten.shrink frequency key
    ((s.touch frequency key entry hash).rewrite key value cost expiresAt).size
  unfold Shard.overwrite
  dsimp only
  rw [hwritten.size]
  exact ⟨congrArg (SetResult.mk true) hshrunk.answer, hshrunk.state.record .set⟩

theorem store (h : Ahead gap counted s t) (key : Key) (hash : UInt64) (value : ByteArray)
    (cost : Nat) (expiresAt : Option Instant) :
    Ahead gap counted (s.store key hash value cost expiresAt)
      (t.store key hash value cost expiresAt) := by
  have hroom := h.placement.windowHasRoom cost
  unfold Shard.store
  rw [hroom]
  obtain ⟨hlater, hcounters⟩ := h
  exact .mk (hlater.insert key _ cost) hcounters

theorem judged (h : Ahead gap counted s t) (frequency : UInt64 → Nat) (hash : UInt64)
    (cost : Nat) :
    Agree (Placement.Later gap) (s.judged frequency hash cost) (t.judged frequency hash cost) := by
  unfold Shard.judged
  rw [h.entries, h.used, h.capacity, h.size]
  apply Agree.getD _ _ h.placement
  apply Admission.judge_agree _ _ _ h.placement
  exact fun chosen _ _ hlater => sampleVictims_agree hlater s.entries chosen

theorem decided (h : Ahead gap counted s t) (decision : Decision) (key : Key) (hash : UInt64)
    (value : ByteArray) (cost : Nat) (expiresAt : Option Instant) :
    Agree (Ahead gap counted) (s.decided decision key hash value cost expiresAt)
      (t.decided decision key hash value cost expiresAt) := by
  cases decision with
  | refuse => exact ⟨rfl, h.record .rejection⟩
  | fits => exact ⟨rfl, (h.store key hash value cost expiresAt).record .set⟩
  | displace keys =>
    have hleft := h.removeAll .evicted keys
    exact ⟨congrArg (SetResult.mk true) hleft.answer,
      (hleft.state.store key hash value cost expiresAt).record .set⟩

theorem tryAdmit (h : Ahead gap counted s t) (frequency : UInt64 → Nat) (key : Key)
    (hash : UInt64) (value : ByteArray) (cost : Nat) (expiresAt : Option Instant) :
    Agree (Ahead gap counted) (s.tryAdmit frequency key hash value cost expiresAt)
      (t.tryAdmit frequency key hash value cost expiresAt) := by
  obtain ⟨hdecision, hlater⟩ := h.judged frequency hash cost
  rw [tryAdmit_eq, tryAdmit_eq, hdecision]
  exact (h.withPlacement hlater).decided _ key hash value cost expiresAt

theorem set (h : Ahead gap counted s t) (frequency : UInt64 → Nat) (key : Key)
    (hash : UInt64) (value : ByteArray) (cost : Nat) (expiresAt : Option Instant)
    (now : Instant) :
    Agree (Ahead gap counted) (s.call (.set frequency key hash value cost expiresAt now))
      (t.call (.set frequency key hash value cost expiresAt now)) := by
  have hgone := h.removeEntry key .expired
  simp only [Shard.call, Shard.set, h.entries, h.capacity]
  by_cases hlarge : s.capacity < cost
  · simp only [if_pos hlarge]
    exact ⟨rfl, h⟩
  simp only [if_neg hlarge]
  by_cases hlate : expiredAt expiresAt now
  · simp only [if_pos hlate]
    exact ⟨by rw [hgone.answer], hgone.state.record .rejection⟩
  simp only [if_neg hlate]
  cases s.entries[key]? with
  | none =>
    have hadmitted := h.tryAdmit frequency key hash value cost expiresAt
    exact ⟨congrArg ShardAnswer.wrote hadmitted.answer, hadmitted.state⟩
  | some entry =>
    by_cases hexpired : entry.isExpired now
    · have hadmitted := hgone.state.tryAdmit frequency key hash value cost expiresAt
      simp only [if_pos hexpired]
      exact ⟨by rw [hgone.answer, hadmitted.answer], hadmitted.state⟩
    · have hwritten := h.overwrite frequency key entry hash value cost expiresAt
      simp only [if_neg hexpired]
      exact ⟨congrArg ShardAnswer.wrote hwritten.answer, hwritten.state⟩

/-! ## Calls and runs -/

theorem clear (h : Ahead gap counted s t) : Agree (Ahead gap counted) s.clear t.clear := by
  refine ⟨h.size, ?_⟩
  obtain ⟨hlater, hcounters⟩ := h
  exact .mk hlater.clear hcounters

theorem call (h : Ahead gap counted s t) (call : ShardCall) :
    Agree (Ahead gap counted) (s.call call) (t.call call) := by
  cases call with
  | get frequency key now =>
    have hread := h.get frequency key now
    exact ⟨congrArg ShardAnswer.found hread.answer, hread.state⟩
  | set frequency key hash value cost expiresAt now =>
    exact h.set frequency key hash value cost expiresAt now
  | delete key now =>
    have hgone := h.delete key now
    exact ⟨congrArg ShardAnswer.deleted hgone.answer, hgone.state⟩
  | clear => exact ⟨congrArg ShardAnswer.cleared h.clear.answer, h.clear.state⟩
  | removeExpired order now =>
    have hswept := h.removeAll .expired (order.arrange (s.expiredKeys now))
    have hkeys : t.expiredKeys now = s.expiredKeys now := by
      rw [expiredKeys, h.entries, expiredKeys]
    simp only [Shard.call, removeExpiredIn, hkeys]
    exact ⟨congrArg ShardAnswer.swept hswept.answer, hswept.state⟩

theorem after (h : Ahead gap counted s t) (calls : List ShardCall) :
    Ahead gap counted (s.after calls) (t.after calls) := by
  induction calls generalizing s t with
  | nil => exact h
  | cons call calls ih => exact ih (h.call call).state

theorem answers (h : Ahead gap counted s t) (calls : List ShardCall) :
    (t.visits calls).map (·.answer) = (s.visits calls).map (·.answer) := by
  induction calls generalizing s t with
  | nil => rfl
  | cons call calls ih =>
    have hcall := h.call call
    simp only [visits, List.map_cons, ih hcall.state]
    exact congrArg (· :: _) hcall.answer

end Ahead

/-! ## After a clear -/

theorem ahead_clear {sampleSize : Nat} (s : Shard)
    (h : s.placement.sampleSize = max sampleSize 1) :
    Ahead s.placement.nextArrival s.counters
      (empty s.capacity (.empty s.placement.windowCapacity sampleSize s.placement.random))
      s.clear.2 := by
  refine .mk (Placement.later_clear h) fun outcome => ?_
  cases outcome <;> exact (Nat.zero_add _).symm

/-- No later call sees that a shard was cleared and not built anew. Only its counters tell, which
are ahead by what was counted before. -/
theorem cleared_shard_is_like_new (capacity windowCapacity sampleSize : Nat) (random : Generator)
    (before later : List ShardCall) :
    let s := (empty capacity (.empty windowCapacity sampleSize random)).after before
    let new := empty capacity (.empty windowCapacity sampleSize s.placement.random)
    let cleared := s.clear.2
    (cleared.visits later).map (·.answer) = (new.visits later).map (·.answer) ∧
      (cleared.visits later).flatMap (·.answer.removals) =
        (new.visits later).flatMap (·.answer.removals) ∧
      (∀ key, (cleared.after later).segment? key = (new.after later).segment? key) ∧
      (cleared.after later).used = (new.after later).used ∧
      (cleared.after later).size = (new.after later).size ∧
      ∀ outcome, (cleared.after later).counters.of outcome =
        (new.after later).counters.of outcome + s.counters.of outcome := by
  intro s new cleared
  have hsettings := sameSettings_after (empty capacity (.empty windowCapacity sampleSize random))
    before
  have hahead : Ahead s.placement.nextArrival s.counters new cleared := by
    have hclear := s.ahead_clear hsettings.sampleSize
    rwa [hsettings.capacity, hsettings.windowCapacity] at hclear
  have hlater := hahead.after later
  have hanswers := hahead.answers later
  refine ⟨hanswers, ?_, fun key => ?_, hlater.used, hlater.size, hlater.counters⟩
  · have hremovals := congrArg (List.flatMap ShardAnswer.removals) hanswers
    simpa only [List.flatMap_map] using hremovals
  · rw [segment?, hlater.entries, segment?]

end LfuCache.Shard
