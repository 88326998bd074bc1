import Mathlib
import LfuCache.Proofs.Shard.Removals

/-!
# The eviction loop

A write over a live entry may leave the shard with too much. Others are then given up, one
each turn, until it holds no more than its capacity. The loop stops early when a sample names
nobody, and that can happen with many others still there: main is too large to be listed, so
keys are drawn, and every draw may meet the key that has to stay.
-/

namespace LfuCache

namespace Placement

/-- No other key is in the window, main is too large to be listed, and each draw of the next
sample meets this key. -/
structure Unlucky (p : Placement) (key : Key) : Prop where
  alone : ∀ other ∈ p.keysIn .window, other = key
  large : p.sampleSize + 1 < p.main.size
  drawn : ∀ i ∈ p.mainDraws, p.main[i.val]? = some key

theorem unlucky_iff_misses {p : Placement} {key : Key} : p.Unlucky key ↔ p.Misses [key] := by
  constructor
  · rintro ⟨halone, hlarge, hdrawn⟩
    refine ⟨fun other hother => List.mem_singleton.mpr (halone other hother), hlarge, ?_⟩
    intro i hi
    exact List.mem_singleton.mpr (Array.getElem?_eq_some_iff.mp (hdrawn i hi)).2
  · rintro ⟨hwindow, hlarge, hdrawn⟩
    refine ⟨fun other hother => List.mem_singleton.mp (hwindow other hother), hlarge, ?_⟩
    intro i hi
    rw [← List.mem_singleton.mp (hdrawn i hi)]
    exact Array.getElem?_eq_getElem i.isLt

theorem sample_nil_iff_unlucky {p : Placement} (hsize : 0 < p.sampleSize) {key other : Key}
    {segment : Segment} (hother : other ∈ p.keysIn segment) (hne : other ≠ key) :
    (p.sample [key]).1 = [] ↔ p.Unlucky key := by
  rw [unlucky_iff_misses]
  exact sample_nil_iff_misses hsize hother (by simpa using hne)

end Placement

namespace Shard

open Admission

variable {frequency : UInt64 → Nat} {keep : Key} {s t : Shard} {v : Victim}

/-! ## One turn -/

def nextVictim (s : Shard) (frequency : UInt64 → Nat) (keep : Key) : Option Victim :=
  weakest frequency (sampleVictims s.entries [keep] s.placement).1

def sampled (s : Shard) (keep : Key) : Shard :=
  { s with placement := (sampleVictims s.entries [keep] s.placement).2 }

def afterTurn (s : Shard) (keep : Key) (v : Victim) : Shard :=
  ((s.sampled keep).removeEntry v.key .evicted).2

theorem shrink_of_le (h : s.used ≤ s.capacity) (turns : Nat) :
    shrink frequency keep turns s = ([], s) := by
  cases turns with
  | zero => rfl
  | succ turns => rw [shrink, if_pos h]

theorem shrink_of_none (h : s.capacity < s.used) (hnone : s.nextVictim frequency keep = none)
    (turns : Nat) : shrink frequency keep (turns + 1) s = ([], s.sampled keep) := by
  rw [shrink, if_neg (by omega)]
  simp only [nextVictim] at hnone
  simp only [hnone]
  rfl

theorem shrink_of_some (h : s.capacity < s.used) (hsome : s.nextVictim frequency keep = some v)
    (turns : Nat) :
    shrink frequency keep (turns + 1) s =
      (((s.sampled keep).removeEntry v.key .evicted).1.toList ++
          (shrink frequency keep turns (s.afterTurn keep v)).1,
        (shrink frequency keep turns (s.afterTurn keep v)).2) := by
  rw [shrink, if_neg (by omega)]
  simp only [nextVictim] at hsome
  simp only [hsome]
  rfl

theorem nextVictim_resident (h : s.nextVictim frequency keep = some v) :
    IsResident s.entries v ∧ v.key ≠ keep := by
  obtain ⟨hresident, hkey⟩ := mem_sampleVictims (weakest_mem h)
  exact ⟨hresident, by simpa using hkey⟩

theorem notMem_keys {victims : List Victim} (h : ∀ v ∈ victims, v.key ≠ keep) :
    keep ∉ victims.map (·.key) := by
  intro hmem
  obtain ⟨v, hv, hkey⟩ := List.mem_map.mp hmem
  exact h v hv hkey

theorem changes_sampled (s : Shard) (keep : Key) : Changes s (s.sampled keep) :=
  .single (.draw (afterDraws_sampleVictims s.entries [keep] s.placement))

theorem changes_afterTurn (s : Shard) (keep : Key) (v : Victim) :
    Changes s (s.afterTurn keep v) :=
  (changes_sampled s keep).trans (changes_removeEntry _ _ _)

theorem drops_afterTurn (h : s.nextVictim frequency keep = some v) :
    Drops .evicted s.entries [v.key] [reportOfVictim v] (s.afterTurn keep v).entries := by
  obtain ⟨⟨entry, hget, hhash, hcost⟩, -⟩ := nextVictim_resident h
  have hget' : (s.sampled keep).entries[v.key]? = some entry := hget
  rw [reportOfVictim, hhash, hcost]
  exact drops_removeEntry .evicted hget'

theorem size_afterTurn (hvictim : s.nextVictim frequency keep = some v) :
    (s.afterTurn keep v).size + 1 = s.size := by
  obtain ⟨⟨entry, hget, -, -⟩, -⟩ := nextVictim_resident hvictim
  have hget' : (s.sampled keep).entries[v.key]? = some entry := hget
  rw [Shard.afterTurn, removeEntry_of_some .evicted hget', size, entries_recordRemoval]
  exact Map.size_erase hget

/-! ## All turns -/

/-- Turns of the loop and the victims they take. Each turn is taken while the shard holds too
much. -/
inductive Turns (frequency : UInt64 → Nat) (keep : Key) : Shard → List Victim → Shard → Prop where
  | stop (s : Shard) : Turns frequency keep s [] s
  | turn {s t : Shard} {v : Victim} {victims : List Victim} : s.capacity < s.used →
    s.nextVictim frequency keep = some v → Turns frequency keep (s.afterTurn keep v) victims t →
    Turns frequency keep s (v :: victims) t

/-- How the loop halts with so many turns left. -/
inductive Halts (frequency : UInt64 → Nat) (keep : Key) : Nat → Shard → Shard → Prop where
  | room {s : Shard} (left : Nat) : s.used ≤ s.capacity → Halts frequency keep left s s
  /-- The sample names nobody. -/
  | stuck {s : Shard} (left : Nat) : s.capacity < s.used →
    s.nextVictim frequency keep = none → Halts frequency keep (left + 1) s (s.sampled keep)
  | spent {s : Shard} : s.capacity < s.used → Halts frequency keep 0 s s

theorem Halts.entries_eq {left : Nat} (h : Halts frequency keep left s t) :
    t.entries = s.entries := by
  cases h <;> rfl

theorem Halts.used_eq {left : Nat} (h : Halts frequency keep left s t) : t.used = s.used := by
  cases h <;> rfl

theorem shrink_turns (frequency : UInt64 → Nat) (keep : Key) (turns : Nat) (s : Shard) :
    ∃ victims last left, Turns frequency keep s victims last ∧ victims.length + left = turns ∧
      (shrink frequency keep turns s).1 = victims.map reportOfVictim ∧
      Halts frequency keep left last (shrink frequency keep turns s).2 := by
  induction turns generalizing s with
  | zero =>
    by_cases hover : s.capacity < s.used
    · exact ⟨[], s, 0, .stop s, rfl, rfl, .spent hover⟩
    · exact ⟨[], s, 0, .stop s, rfl, rfl, .room 0 (by omega)⟩
  | succ turns ih =>
    by_cases hover : s.capacity < s.used
    · cases hvictim : s.nextVictim frequency keep with
      | none =>
        rw [shrink_of_none hover hvictim]
        exact ⟨[], s, turns + 1, .stop s, Nat.zero_add _, rfl, .stuck turns hover hvictim⟩
      | some v =>
        obtain ⟨victims, last, left, hturns, hcount, hreports, hhalts⟩ := ih (s.afterTurn keep v)
        obtain ⟨⟨entry, hget, hhash, hcost⟩, -⟩ := nextVictim_resident hvictim
        have hget' : (s.sampled keep).entries[v.key]? = some entry := hget
        rw [shrink_of_some hover hvictim, removeEntry_fst, hget', hreports]
        refine ⟨v :: victims, last, left, .turn hover hvictim hturns, ?_, ?_, hhalts⟩
        · rw [List.length_cons]
          omega
        · rw [List.map_cons, reportOfVictim, hhash, hcost]
          rfl
    · rw [shrink_of_le (by omega)]
      exact ⟨[], s, turns + 1, .stop s, Nat.zero_add _, rfl, .room _ (by omega)⟩

namespace Turns

variable {victims : List Victim}

theorem changes (h : Turns frequency keep s victims t) : Changes s t := by
  induction h with
  | stop => exact .refl
  | turn _ _ _ ih => exact (changes_afterTurn _ keep _).trans ih

theorem resident (h : Turns frequency keep s victims t) :
    ∀ v ∈ victims, IsResident s.entries v ∧ v.key ≠ keep := by
  induction h with
  | stop => simp
  | @turn s _ first _ _ hvictim _ ih =>
    rw [List.forall_mem_cons]
    refine ⟨nextVictim_resident hvictim, fun v hv => ?_⟩
    obtain ⟨⟨entry, hget, hsame⟩, hne⟩ := ih v hv
    -- What is there after a turn was there before it.
    rw [afterTurn, get_removeEntry] at hget
    split at hget
    · exact absurd hget (by simp)
    · exact ⟨⟨entry, hget, hsame⟩, hne⟩

theorem keep_notMem (h : Turns frequency keep s victims t) : keep ∉ victims.map (·.key) :=
  notMem_keys fun v hv => (h.resident v hv).2

theorem drops (h : Turns frequency keep s victims t) :
    Drops .evicted s.entries (victims.map (·.key)) (victims.map reportOfVictim) t.entries := by
  induction h with
  | stop => exact .nil _ _
  | turn _ hvictim _ ih => exact (drops_afterTurn hvictim).trans ih

theorem split {v : Victim} {before after : List Victim}
    (h : Turns frequency keep s (before ++ v :: after) t) :
    ∃ u, Turns frequency keep s before u ∧ u.capacity < u.used ∧
      u.nextVictim frequency keep = some v := by
  induction before generalizing s with
  | nil =>
    cases h with
    | turn hover hvictim => exact ⟨s, .stop s, hover, hvictim⟩
  | cons first before ih =>
    cases h with
    | turn hover hvictim hrest =>
      obtain ⟨u, hturns, hlast⟩ := ih hrest
      exact ⟨u, .turn hover hvictim hturns, hlast⟩

end Turns

theorem drops_shrink (frequency : UInt64 → Nat) (keep : Key) (turns : Nat) (s : Shard) :
    ∃ keys, keep ∉ keys ∧
      Drops .evicted s.entries keys (shrink frequency keep turns s).1
        (shrink frequency keep turns s).2.entries := by
  obtain ⟨victims, last, left, hturns, -, hreports, hhalts⟩ := shrink_turns frequency keep turns s
  rw [hreports, hhalts.entries_eq]
  exact ⟨victims.map (·.key), hturns.keep_notMem, hturns.drops⟩

/-- Turns of the loop, each taken while the shard holds too much. -/
inductive Evicts (frequency : UInt64 → Nat) (keep : Key) : Shard → Shard → Prop where
  | stop (s : Shard) : Evicts frequency keep s s
  | turn {s t : Shard} {v : Victim} : s.capacity < s.used →
    s.nextVictim frequency keep = some v → Evicts frequency keep (s.afterTurn keep v) t →
    Evicts frequency keep s t

/-- What the loop meets: sound accounts, and a key to keep that would fit alone. -/
structure Keeps (s : Shard) (keep : Key) : Prop where
  accounted : s.Accounted
  sampleSize_pos : 0 < s.placement.sampleSize
  fits : ∃ entry, s.entries[keep]? = some entry ∧ entry.cost ≤ s.capacity

namespace Keeps

theorem afterTurn (h : s.Keeps keep) (hvictim : s.nextVictim frequency keep = some v) :
    (s.afterTurn keep v).Keeps keep := by
  have hchanges := changes_afterTurn s keep v
  have hsettings := SameSettings.of_changes hchanges
  obtain ⟨entry, hget, hcost⟩ := h.fits
  refine ⟨h.accounted.changes hchanges, ?_, entry, ?_, ?_⟩
  · rw [hsettings.sampleSize]
    exact h.sampleSize_pos
  · rw [Shard.afterTurn, get_removeEntry, if_neg (nextVictim_resident hvictim).2]
    exact hget
  · rw [hsettings.capacity]
    exact hcost

theorem other_of_over (h : s.Keeps keep) (hover : s.capacity < s.used) :
    ∃ (other : Key) (entry : Entry), s.entries[other]? = some entry ∧ other ≠ keep := by
  by_contra hnone
  push Not at hnone
  obtain ⟨kept, hget, hcost⟩ := h.fits
  have halone : ∀ k : Key, (s.entries.erase keep)[k]? = (∅ : Entries)[k]? := by
    intro k
    rw [Map.get_erase]
    by_cases hk : keep = k
    · simp [hk]
    · cases hentry : s.entries[k]? with
      | none => simp
      | some entry => exact absurd (hnone k entry hentry).symm hk
  have hempty : totalCost (s.entries.erase keep) = 0 := by
    rw [totalCost, Map.total_congr halone, Map.total_empty]
  have herase := totalCost_erase hget
  have hused := h.accounted.used_eq
  omega

theorem nextVictim_eq_none_iff (h : s.Keeps keep) (hover : s.capacity < s.used) :
    s.nextVictim frequency keep = none ↔ s.placement.Unlucky keep := by
  obtain ⟨other, entry, hget, hne⟩ := h.other_of_over hover
  have hplaced := h.accounted.places.mem_of_get hget
  rw [nextVictim, weakest_eq_none_iff, sampleVictims_eq_nil_iff h.accounted.places,
    Placement.sample_nil_iff_unlucky h.sampleSize_pos hplaced hne]

/-- With turns enough for all residents, the loop leaves too much exactly if its turns lead to
an unlucky placement. -/
theorem over_shrink_iff {turns : Nat} (h : s.Keeps keep) (hturns : s.size ≤ turns) :
    s.capacity < (shrink frequency keep turns s).2.used ↔
      ∃ t, Evicts frequency keep s t ∧ s.capacity < t.used ∧ t.placement.Unlucky keep := by
  induction turns generalizing s with
  | zero =>
    obtain ⟨entry, hget, -⟩ := h.fits
    have hsize := Map.size_erase hget
    rw [size] at hturns
    omega
  | succ turns ih =>
    by_cases hover : s.capacity < s.used
    · cases hvictim : s.nextVictim frequency keep with
      | none =>
        rw [shrink_of_none hover hvictim]
        exact iff_of_true hover ⟨s, .stop s, hover, (h.nextVictim_eq_none_iff hover).mp hvictim⟩
      | some v =>
        have hcapacity := (SameSettings.of_changes (changes_afterTurn s keep v)).capacity
        have hsize := size_afterTurn hvictim
        have hnext := ih (h.afterTurn hvictim) (by omega)
        rw [hcapacity] at hnext
        rw [shrink_of_some hover hvictim, hnext]
        constructor
        · rintro ⟨t, hturns, hstuck⟩
          exact ⟨t, .turn hover hvictim hturns, hstuck⟩
        · rintro ⟨t, hturns, hstuck⟩
          cases hturns with
          | stop =>
            rw [(h.nextVictim_eq_none_iff hover).mpr hstuck.2] at hvictim
            exact absurd hvictim (by simp)
          | turn _ hsame hrest =>
            rw [hvictim] at hsame
            obtain rfl := Option.some.inj hsame
            exact ⟨t, hrest, hstuck⟩
    · rw [shrink_of_le (by omega)]
      refine iff_of_false hover ?_
      rintro ⟨t, hturns, hstuck, -⟩
      cases hturns with
      | stop => exact hover hstuck
      | turn hagain => exact hover hagain

end Keeps

end Shard

end LfuCache
