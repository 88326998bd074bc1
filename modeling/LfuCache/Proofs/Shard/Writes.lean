import Mathlib
import LfuCache.Proofs.Admission
import LfuCache.Proofs.Shard.Steps

/-!
# What a write can do

A write fails, comes too late, lets a new key in or not, or goes over a live entry. `Admits`
and `Sets` list all cases with all that they change, so that no other proof has to open
these operations. `Chosen` says which residents have to go for a new key.
-/

namespace LfuCache.Shard

open Admission

/-! ## Sampled victims -/

def IsResident (entries : Entries) (v : Victim) : Prop :=
  ∃ entry, entries[v.key]? = some entry ∧ v.hash = entry.hash ∧ v.cost = entry.cost

theorem mem_victimsFor {entries : Entries} {keys : List Key} {v : Victim}
    (h : v ∈ victimsFor entries keys) : v.key ∈ keys ∧ IsResident entries v := by
  simp only [victimsFor, List.mem_filterMap, Option.map_eq_some_iff] at h
  obtain ⟨key, hkey, entry, hget, rfl⟩ := h
  exact ⟨hkey, entry, hget, rfl, rfl⟩

theorem mem_sampleVictims {entries : Entries} {exclude : List Key} {p : Placement} {v : Victim}
    (h : v ∈ (sampleVictims entries exclude p).1) : IsResident entries v ∧ v.key ∉ exclude := by
  obtain ⟨hkey, hresident⟩ := mem_victimsFor h
  exact ⟨hresident, (Placement.mem_sample hkey).2⟩

theorem afterDraws_sampleVictims (entries : Entries) (exclude : List Key) (p : Placement) :
    Placement.AfterDraws p (sampleVictims entries exclude p).2 := p.afterDraws_sample exclude

theorem sampleVictims_eq_nil_iff {entries : Entries} {p : Placement} (h : p.Places entries)
    (exclude : List Key) :
    (sampleVictims entries exclude p).1 = [] ↔ (p.sample exclude).1 = [] := by
  constructor
  · intro hnil
    rw [List.eq_nil_iff_forall_not_mem]
    intro key hkey
    -- A sampled key is placed, so it is resident and gives a victim.
    obtain ⟨⟨segment, hsegment⟩, -⟩ := Placement.mem_sample hkey
    rw [h.mem_iff] at hsegment
    obtain ⟨entry, hget, -⟩ := Option.map_eq_some_iff.mp hsegment
    have hmem : (⟨key, entry.hash, entry.cost⟩ : Victim) ∈ (sampleVictims entries exclude p).1 := by
      simp only [sampleVictims, victimsFor, List.mem_filterMap]
      exact ⟨key, hkey, by simp [hget]⟩
    rw [hnil] at hmem
    exact absurd hmem (by simp)
  · intro hnil
    simp [sampleVictims, hnil, victimsFor]

/-! ## The chosen ones -/

/-- Distinct residents, each less frequent than the candidate. They free what is needed,
and without the last one they would not. -/
structure Chosen (entries : Entries) (frequency : UInt64 → Nat) (candidate : UInt64)
    (needed : Nat) (victims : List Victim) : Prop where
  nodup : (victims.map (·.key)).Nodup
  resident : ∀ v ∈ victims, IsResident entries v
  weaker : ∀ v ∈ victims, frequency v.hash < frequency candidate
  enough : needed ≤ freedBy victims
  no_spare : freedBy victims.dropLast < needed

variable {s : Shard} {frequency : UInt64 → Nat} {hash : UInt64} {needed : Nat}

theorem judge_fits (h : needed = 0) (rounds : Nat) :
    judge frequency hash needed (sampleVictims s.entries) rounds s.placement =
      some (.fits, s.placement) := by
  simp [judge, h]

theorem sampleVictims_keep (s : Shard) (chosen : List Key) (st : Placement)
    (h : Placement.AfterDraws s.placement st) :
    Placement.AfterDraws s.placement (sampleVictims s.entries chosen st).2 :=
  h.trans (afterDraws_sampleVictims s.entries chosen st)

theorem wins_residents {placement : Placement} {victims : List Victim}
    (h : Wins frequency hash (sampleVictims s.entries) [] s.placement victims placement) :
    Placement.AfterDraws s.placement placement ∧ (victims.map (·.key)).Nodup ∧
      ∀ v ∈ victims, IsResident s.entries v ∧ frequency v.hash < frequency hash := by
  refine ⟨h.keep s.sampleVictims_keep (.refl _), ?_, ?_⟩
  · exact h.nodup s.sampleVictims_keep (fun _ _ _ v hv => (mem_sampleVictims hv).2) (.refl _)
      List.nodup_nil
  · exact h.forall_mem s.sampleVictims_keep (fun _ _ _ v hv => (mem_sampleVictims hv).1) (.refl _)

theorem afterDraws_contest {rounds : Nat} {decision : Decision} {last : Placement}
    (h : contest frequency hash needed (sampleVictims s.entries) rounds [] 0 s.placement =
      some (decision, last)) : Placement.AfterDraws s.placement last := by
  obtain ⟨victims, mid, hwins, -, hends⟩ := contest_rounds h
  have hmid := (wins_residents hwins).1
  cases hends with
  | displace => exact hmid
  | refuse => exact s.sampleVictims_keep _ _ hmid

theorem afterDraws_judge {rounds : Nat} {decision : Decision} {last : Placement}
    (h : judge frequency hash needed (sampleVictims s.entries) rounds s.placement =
      some (decision, last)) : Placement.AfterDraws s.placement last := by
  unfold judge at h
  split at h
  · obtain ⟨rfl, rfl⟩ := h
    exact .refl _
  · exact afterDraws_contest h

theorem judge_cases (s : Shard) (frequency : UInt64 → Nat) (hash : UInt64) (h : 0 < needed)
    (rounds : Nat) :
    ∃ decision placement, Placement.AfterDraws s.placement placement ∧
      (judge frequency hash needed (sampleVictims s.entries) rounds s.placement).getD
        (.refuse, s.placement) = (decision, placement) ∧
      (decision = .refuse ∨ ∃ victims, decision = .displace (victims.map (·.key)) ∧
        Chosen s.entries frequency hash needed victims) := by
  rw [judge, if_neg (by omega)]
  cases hcontest : contest frequency hash needed (sampleVictims s.entries) rounds [] 0
      s.placement with
  | none => exact ⟨.refuse, s.placement, .refl _, rfl, .inl rfl⟩
  | some answer =>
    obtain ⟨decision, last⟩ := answer
    obtain ⟨victims, mid, hwins, hprefix, hends⟩ := contest_rounds hcontest
    obtain ⟨-, hnodup, hall⟩ := wins_residents hwins
    refine ⟨decision, last, afterDraws_contest hcontest, rfl, ?_⟩
    cases hends with
    | refuse => exact .inl rfl
    | displace henough =>
      have hne : victims ≠ [] := by
        rintro rfl
        simp only [freedBy_nil] at henough
        omega
      refine .inr ⟨victims, rfl, hnodup, fun v hv => (hall v hv).1, fun v hv => (hall v hv).2,
        by simpa using henough, by simpa using hprefix hne⟩

/-! ## The three cases -/

/-- What an admission can do, with all that it changes. -/
inductive Admits (s : Shard) (frequency : UInt64 → Nat) (key : Key) (hash : UInt64)
    (value : ByteArray) (cost : Nat) (expiresAt : Option Instant) : SetResult → Shard → Prop where
  | fits : s.used + cost ≤ s.capacity →
    Admits s frequency key hash value cost expiresAt ⟨true, []⟩
      ((s.store key hash value cost expiresAt).record .set)
  | refuse {placement : Placement} : s.capacity < s.used + cost →
    Placement.AfterDraws s.placement placement →
    Admits s frequency key hash value cost expiresAt ⟨false, []⟩
      ({ s with placement }.record .rejection)
  | displace {placement : Placement} {victims : List Victim} : s.capacity < s.used + cost →
    Placement.AfterDraws s.placement placement →
    Chosen s.entries frequency hash (s.used + cost - s.capacity) victims →
    Admits s frequency key hash value cost expiresAt
      ⟨true, (removeAll .evicted (victims.map (·.key)) { s with placement }).1⟩
      (((removeAll .evicted (victims.map (·.key)) { s with placement }).2.store key hash value
        cost expiresAt).record .set)

variable {key : Key} {value : ByteArray} {cost : Nat} {expiresAt : Option Instant}

theorem tryAdmit_admits {result : SetResult} {t : Shard}
    (h : s.tryAdmit frequency key hash value cost expiresAt = (result, t)) :
    s.Admits frequency key hash value cost expiresAt result t := by
  by_cases hroom : s.used + cost ≤ s.capacity
  · have hzero : s.used + cost - s.capacity = 0 := by omega
    simp only [tryAdmit, judge_fits hzero, Option.getD_some] at h
    obtain ⟨rfl, rfl⟩ := Prod.mk.inj h
    exact .fits hroom
  · have hless : s.capacity < s.used + cost := by omega
    obtain ⟨decision, placement, hdraws, hjudge, hdecision⟩ := s.judge_cases
      frequency hash (Nat.sub_pos_of_lt hless) (s.size + 1)
    simp only [tryAdmit, hjudge] at h
    rcases hdecision with rfl | ⟨victims, rfl, hchosen⟩
    · obtain ⟨rfl, rfl⟩ := Prod.mk.inj h
      exact .refuse hless hdraws
    · obtain ⟨rfl, rfl⟩ := Prod.mk.inj h
      exact .displace hless hdraws hchosen

/-! ## The cases of a write -/

/-- The key is not there, or its time is over. -/
def Vacant (s : Shard) (key : Key) (now : Instant) : Prop :=
  ∀ entry, s.entries[key]? = some entry → entry.isExpired now = true

instance (s : Shard) (key : Key) (now : Instant) : Decidable (s.Vacant key now) :=
  decidable_of_iff ((s.entries[key]?).all (·.isExpired now) = true) (by
    cases hget : s.entries[key]? <;> simp [Vacant, hget])

/-- What a write can do. An entry of the key itself that is over goes before all else. -/
inductive Sets (s : Shard) (frequency : UInt64 → Nat) (key : Key) (hash : UInt64)
    (value : ByteArray) (cost : Nat) (expiresAt : Option Instant) (now : Instant) :
    Except CacheError (SetResult × Shard) → Prop where
  | tooLarge : s.capacity < cost →
    Sets s frequency key hash value cost expiresAt now (.error (.valueTooLarge cost s.capacity))
  | tooLate : cost ≤ s.capacity → expiredAt expiresAt now = true →
    Sets s frequency key hash value cost expiresAt now
      (.ok (⟨false, (s.removeEntry key .expired).1.toList⟩,
        (s.removeEntry key .expired).2.record .rejection))
  | new {result : SetResult} {t : Shard} : cost ≤ s.capacity →
    expiredAt expiresAt now = false → s.Vacant key now →
    (s.removeEntry key .expired).2.Admits frequency key hash value cost expiresAt result t →
    Sets s frequency key hash value cost expiresAt now
      (.ok (⟨result.admitted, (s.removeEntry key .expired).1.toList ++ result.removed⟩, t))
  | live {entry : Entry} : cost ≤ s.capacity → expiredAt expiresAt now = false →
    s.entries[key]? = some entry → entry.isExpired now = false →
    Sets s frequency key hash value cost expiresAt now
      (.ok (s.overwrite frequency key entry hash value cost expiresAt))

theorem set_sets (s : Shard) (frequency : UInt64 → Nat) (key : Key) (hash : UInt64)
    (value : ByteArray) (cost : Nat) (expiresAt : Option Instant) (now : Instant) :
    s.Sets frequency key hash value cost expiresAt now
      (s.set frequency key hash value cost expiresAt now) := by
  unfold Shard.set
  split
  · exact .tooLarge ‹_›
  rename_i hcost
  have hfits : cost ≤ s.capacity := by omega
  split
  · exact .tooLate hfits ‹_›
  rename_i hlate
  have htime : expiredAt expiresAt now = false := by simpa using hlate
  split
  · rename_i hget
    have hvacant : s.Vacant key now := by
      intro entry hentry
      rw [hget] at hentry
      exact absurd hentry (by simp)
    generalize hadmit : s.tryAdmit frequency key hash value cost expiresAt = answer
    obtain ⟨result, t⟩ := answer
    have hnew : s.Sets frequency key hash value cost expiresAt now
        (.ok (⟨result.admitted, (s.removeEntry key .expired).1.toList ++ result.removed⟩, t)) := by
      apply Sets.new hfits htime hvacant
      rw [removeEntry_of_none .expired hget]
      exact tryAdmit_admits hadmit
    rw [removeEntry_of_none .expired hget] at hnew
    exact hnew
  · rename_i entry hget
    split
    · rename_i hexpired
      have hvacant : s.Vacant key now := by
        intro other hother
        rw [hget] at hother
        exact Option.some.inj hother ▸ hexpired
      exact .new hfits htime hvacant (tryAdmit_admits rfl)
    · rename_i hlive
      exact .live hfits htime hget (by simpa using hlive)

theorem cost_le_of_set {now : Instant} {result : SetResult} {t : Shard}
    (h : s.set frequency key hash value cost expiresAt now = .ok (result, t)) :
    cost ≤ s.capacity := by
  have hsets := s.set_sets frequency key hash value cost expiresAt now
  rw [h] at hsets
  cases hsets <;> assumption

end LfuCache.Shard
