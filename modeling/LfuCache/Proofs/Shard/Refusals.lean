import Mathlib
import LfuCache.Proofs.Shard.Capacity
import LfuCache.Proofs.Shard.Rounds

/-!
# Refused for lack of room

A key that is more frequent than every resident beats each victim that it meets. There is
always enough to be freed for it, but a sample can miss what is left. Then the key is refused
without a comparison that it lost.
-/

namespace LfuCache.Shard

open Admission

variable {s : Shard} {frequency : UInt64 → Nat} {key : Key} {hash : UInt64} {value : ByteArray}
  {cost : Nat} {expiresAt : Option Instant} {now : Instant}

def Outranks (s : Shard) (frequency : UInt64 → Nat) (hash : UInt64) : Prop :=
  ∀ (key : Key) (entry : Entry), s.entries[key]? = some entry →
    frequency entry.hash < frequency hash

instance (s : Shard) (frequency : UInt64 → Nat) (hash : UInt64) :
    Decidable (s.Outranks frequency hash) :=
  decidable_of_iff (∀ entry ∈ s.entries.values, frequency entry.hash < frequency hash) (by
    simp only [Outranks, Map.mem_values]
    constructor
    · intro h key entry hget
      exact h entry ⟨key, hget⟩
    · rintro h entry ⟨key, hget⟩
      exact h key entry hget)

/-- The candidate wins its rounds, but they do not free enough, and the next sample misses all
that is left. -/
def Strands (s : Shard) (frequency : UInt64 → Nat) (hash : UInt64) (cost : Nat) : Prop :=
  ∃ victims placement,
    Wins frequency hash (sampleVictims s.entries) [] s.placement victims placement ∧
    s.capacity + freedBy victims < s.used + cost ∧ placement.Misses (victims.map (·.key))

/-! ## The rounds -/

section Rounds

variable {victims : List Victim} {placement : Placement}

theorem exists_unchosen (hs : s.Accounted) (hcost : cost ≤ s.capacity)
    (hwins : Wins frequency hash (sampleVictims s.entries) [] s.placement victims placement)
    (hless : s.capacity + freedBy victims < s.used + cost) :
    ∃ (other : Key) (entry : Entry), s.entries[other]? = some entry ∧
      other ∉ victims.map (·.key) := by
  obtain ⟨-, hnodup, hresident⟩ := wins_residents hwins
  by_contra hnone
  push Not at hnone
  have hall := freedBy_of_all_residents hnodup (fun v hv => (hresident v hv).1) hnone
  have hused := hs.used_eq
  omega

theorem no_victim_iff_misses (hs : s.Accounted) (hsize : 0 < s.placement.sampleSize)
    (hcost : cost ≤ s.capacity)
    (hwins : Wins frequency hash (sampleVictims s.entries) [] s.placement victims placement)
    (hless : s.capacity + freedBy victims < s.used + cost) :
    (sampleVictims s.entries (victims.map (·.key)) placement).1 = [] ↔
      placement.Misses (victims.map (·.key)) := by
  obtain ⟨other, entry, hget, hleft⟩ := exists_unchosen hs hcost hwins hless
  obtain ⟨random, rfl⟩ := (wins_residents hwins).1
  have hplaces := hs.places.withRandom random
  rw [sampleVictims_eq_nil_iff hplaces]
  refine Placement.sample_nil_iff_misses ?_ (hplaces.mem_of_get hget) hleft
  exact hsize

theorem contest_refuses_iff (hs : s.Accounted) (hsize : 0 < s.placement.sampleSize)
    (hcost : cost ≤ s.capacity) (houtranks : s.Outranks frequency hash)
    (hover : s.capacity < s.used + cost) {decision : Decision} {last : Placement}
    (hcontest : contest frequency hash (s.used + cost - s.capacity) (sampleVictims s.entries)
      (s.size + 1) [] 0 s.placement = some (decision, last)) :
    decision = .refuse ↔ s.Strands frequency hash cost := by
  constructor
  · rintro rfl
    obtain ⟨victims, mid, hwins, -, hends⟩ := contest_rounds hcontest
    cases hends with
    | refuse hless hbeaten =>
      rw [Nat.zero_add] at hless
      rw [List.nil_append] at hbeaten
      refine ⟨victims, mid, hwins, by omega, ?_⟩
      rw [← no_victim_iff_misses hs hsize hcost hwins (by omega),
        List.eq_nil_iff_forall_not_mem]
      -- A victim that was sampled would have lost.
      intro v hv
      obtain ⟨⟨entry, hget, hhash, -⟩, -⟩ := mem_sampleVictims hv
      have hlt := houtranks v.key entry hget
      have hle := hbeaten v hv
      rw [hhash] at hle
      omega
  · rintro ⟨victims, mid, hwins, hless, hmisses⟩
    have hnil := (no_victim_iff_misses hs hsize hcost hwins hless).mpr hmisses
    have hlength := wins_length_le hwins
    obtain ⟨rounds, hrounds⟩ : ∃ rounds, s.size + 1 = rounds + 1 + victims.length :=
      ⟨s.size - victims.length, by omega⟩
    rw [hrounds, contest_of_wins _ hwins (by omega), List.nil_append, Nat.zero_add,
      contest_of_no_victim _ (by omega) hnil] at hcontest
    exact (Prod.mk.inj (Option.some.inj hcontest)).1.symm

end Rounds

/-! ## The write -/

theorem tryAdmit_refuses_iff (hs : s.Accounted) (hsize : 0 < s.placement.sampleSize)
    (hcost : cost ≤ s.capacity) (houtranks : s.Outranks frequency hash) :
    (s.tryAdmit frequency key hash value cost expiresAt).1.admitted = false ↔
      s.Strands frequency hash cost := by
  by_cases hroom : s.used + cost ≤ s.capacity
  · have hzero : s.used + cost - s.capacity = 0 := by omega
    simp only [tryAdmit, judge_fits hzero, Option.getD_some, Bool.true_eq_false, false_iff]
    rintro ⟨victims, placement, -, hless, -⟩
    omega
  · have hneeded : s.used + cost - s.capacity ≠ 0 := by omega
    obtain ⟨decision, last, hanswer⟩ :=
      s.judges_within_size frequency hash (s.used + cost - s.capacity)
    have hcontest := hanswer.judge_eq (Nat.le_refl _)
    rw [judge, if_neg hneeded] at hcontest
    rw [← contest_refuses_iff hs hsize hcost houtranks (by omega) hcontest, ← Bool.not_eq_true,
      admitted_tryAdmit_iff hanswer, not_not]

theorem Reachable.sampleSize_pos (h : s.Reachable) : 0 < s.placement.sampleSize := by
  obtain ⟨capacity, windowCapacity, sampleSize, random, calls, rfl⟩ := h
  rw [(sameSettings_after _ calls).sampleSize]
  exact Nat.lt_of_lt_of_le Nat.one_pos (Nat.le_max_right sampleSize 1)

/-- A key that is not there, fits, and is more frequent than every resident, is let in exactly
if its rounds do not strand. -/
theorem outranking_key_admitted_iff (hs : s.Reachable) (hget : s.entries[key]? = none)
    (hcost : cost ≤ s.capacity) (hlive : expiredAt expiresAt now = false)
    (houtranks : s.Outranks frequency hash) (value : ByteArray) :
    ∃ result t, s.set frequency key hash value cost expiresAt now = .ok (result, t) ∧
      (result.admitted = true ↔ ¬s.Strands frequency hash cost) := by
  have hset : s.set frequency key hash value cost expiresAt now = _ :=
    set_of_absent hget hcost hlive
  have hrefuses : (s.tryAdmit frequency key hash value cost expiresAt).1.admitted = false ↔ _ :=
    tryAdmit_refuses_iff (.of_reachable hs) hs.sampleSize_pos hcost houtranks
  generalize s.tryAdmit frequency key hash value cost expiresAt = answer at hset hrefuses
  refine ⟨answer.1, answer.2, hset, ?_⟩
  rw [← hrefuses, Bool.not_eq_false]

/-- Two residents are less frequent than the new key, and both have to go. -/
theorem outranking_key_admitted_iff_between_two :
    let put (key : UInt8) : ShardCall := .set (fun _ => 0) [key] 0 ⟨#[]⟩ 1 none 0
    let s := (empty 2 (.empty 1 1 (.ofSeed 0))).after [put 97, put 98]
    s.entries[([99] : Key)]? = none ∧ s.Outranks UInt64.toNat 1 ∧
      ∃ result t, s.set UInt64.toNat [99] 1 ⟨#[]⟩ 2 none 5 = .ok (result, t) ∧
        (result.admitted = true ↔ ¬s.Strands UInt64.toNat 1 2) :=
  ⟨by decide, by decide,
    outranking_key_admitted_iff ⟨2, 1, 1, .ofSeed 0, _, rfl⟩ (by decide) (by decide) (by decide)
      (by decide) ⟨#[]⟩⟩

/-- Three keys fill a shard of six units. A more frequent one needs the room of two of them, but
the second sample makes eight draws, and all of them meet the key that is chosen already. -/
theorem outranking_key_refused_after_nine_draws :
    let put (key : UInt8) : ShardCall := .set (fun _ => 0) [key] 0 ⟨#[]⟩ 2 none 0
    let s := (empty 6 (.empty 1 1 (.ofSeed 4730))).after [put 97, put 98, put 99]
    s.used ≤ s.capacity ∧ s.entries[([100] : Key)]? = none ∧ 4 ≤ s.capacity ∧
      s.Outranks UInt64.toNat 1 ∧
      (s.set UInt64.toNat [100] 1 ⟨#[]⟩ 4 none 0).toOption.map (·.1.admitted) = some false := by
  decide +kernel

end LfuCache.Shard
