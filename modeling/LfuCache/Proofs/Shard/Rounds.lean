import Mathlib
import LfuCache.Proofs.Admission.Calls
import LfuCache.Proofs.Shard.Writes

/-!
# The rounds of a new key

A shard samples its residents, and never one that is chosen already. So a new key wins no more
rounds than there are residents, and after one round more it is let in or refused.
-/

namespace LfuCache.Shard

open Admission

variable {s : Shard} {frequency : UInt64 → Nat} {key : Key} {hash : UInt64} {value : ByteArray}
  {cost : Nat} {expiresAt : Option Instant} {now : Instant}

/-! ## The pool of residents -/

section Pool

variable {entries : Entries} {entry : Entry} {v : Victim}

theorem mem_keys_of_get (hget : entries[key]? = some entry) : key ∈ entries.keys := by
  rw [Std.TreeMap.mem_keys, Std.TreeMap.mem_iff_isSome_getElem?, hget]
  rfl

theorem mem_keys_of_resident (h : IsResident entries v) : v.key ∈ entries.keys := by
  obtain ⟨entry, hget, -⟩ := h
  exact mem_keys_of_get hget

theorem drawsFrom_sampleVictims (entries : Entries) :
    DrawsFrom entries.keys.toFinset (fun _ => True) (sampleVictims entries) where
  step _ _ _ := trivial
  offered chosen p _ v hv := by
    obtain ⟨hresident, hnew⟩ := mem_sampleVictims hv
    exact ⟨List.mem_toFinset.mpr (mem_keys_of_resident hresident), hnew⟩

theorem card_keys_le (s : Shard) : s.entries.keys.toFinset.card ≤ s.size :=
  (List.toFinset_card_le s.entries.keys).trans_eq Std.TreeMap.length_keys

end Pool

/-! ## Rounds -/

theorem wins_length_le {victims : List Victim} {placement : Placement}
    (hwins : Wins frequency hash (sampleVictims s.entries) [] s.placement victims placement) :
    victims.length ≤ s.size :=
  ((drawsFrom_sampleVictims s.entries).wins_length_le trivial hwins).trans s.card_keys_le

theorem judges_within_size (s : Shard) (frequency : UInt64 → Nat) (hash : UInt64)
    (needed : Nat) :
    ∃ decision last, AnswersWithin frequency hash needed (sampleVictims s.entries) s.placement
      (s.size + 1) decision last := by
  have hreached : (fun _ : Placement => True) s.placement := trivial
  obtain ⟨decision, last, hanswer⟩ :=
    (drawsFrom_sampleVictims s.entries).answersWithin hreached frequency hash needed
  exact ⟨decision, last, hanswer.mono (Nat.succ_le_succ s.card_keys_le)⟩

/-! ## The write of a new key -/

theorem admitted_tryAdmit_iff {decision : Decision} {last : Placement}
    (h : AnswersWithin frequency hash (s.used + cost - s.capacity) (sampleVictims s.entries)
      s.placement (s.size + 1) decision last) :
    (s.tryAdmit frequency key hash value cost expiresAt).1.admitted = true ↔
      decision ≠ .refuse := by
  simp only [tryAdmit, h.judge_eq (Nat.le_refl _), Option.getD_some]
  cases decision <;> simp

theorem set_of_absent (hget : s.entries[key]? = none) (hcost : cost ≤ s.capacity)
    (hlive : expiredAt expiresAt now = false) :
    s.set frequency key hash value cost expiresAt now =
      .ok (s.tryAdmit frequency key hash value cost expiresAt) := by
  unfold Shard.set
  rw [if_neg (by omega), hlive, hget]
  rfl

theorem set_of_vacant (hvacant : s.Vacant key now) (hcost : cost ≤ s.capacity)
    (hearly : expiredAt expiresAt now = false) (frequency : UInt64 → Nat) (hash : UInt64)
    (value : ByteArray) :
    let removed := s.removeEntry key .expired
    let answer := removed.2.tryAdmit frequency key hash value cost expiresAt
    s.set frequency key hash value cost expiresAt now =
      .ok (⟨answer.1.admitted, removed.1.toList ++ answer.1.removed⟩, answer.2) := by
  cases hget : s.entries[key]? with
  | none =>
    rw [removeEntry_of_none .expired hget]
    exact set_of_absent hget hcost hearly
  | some entry =>
    simp only [set, if_neg (not_lt.mpr hcost), hearly, hget, hvacant entry hget,
      Bool.false_eq_true, if_false, if_true]

end LfuCache.Shard
