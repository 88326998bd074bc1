import Mathlib
import LfuCache.Proofs.Sketch.CounterArray

/-!
# Aging periods

An increment is effective if it meets a counter that is not full. Only effective increments are
counted, and the one that follows a full count halves all counters. So each period that is left
to end by itself has the same length, the first one too: one effective increment more than the
threshold.
-/

namespace LfuCache.Sketch

/-! ## Full counters -/

section Table

variable {width : Nat} {table : Vector UInt64 width} {place : Slot width}
  {places : List (Slot width)}

theorem raise_of_full (h : place.Aligned) (hfull : 15 ≤ cell table place.word place.digit)
    (added : Bool) : raise (table, added) place = (table, added) := by
  have hnot : ¬count table place < maxCount := by
    rw [count_lt_maxCount_iff h]
    omega
  simp only [raise, if_neg hnot]

theorem foldl_raise_of_full (h : ∀ place ∈ places, place.Aligned)
    (hfull : ∀ place ∈ places, 15 ≤ cell table place.word place.digit) (added : Bool) :
    places.foldl raise (table, added) = (table, added) := by
  induction places with
  | nil => rfl
  | cons place places ih =>
    obtain ⟨hplace, hplaces⟩ := List.forall_mem_cons.mp h
    obtain ⟨hfirst, hrest⟩ := List.forall_mem_cons.mp hfull
    rw [List.foldl_cons, raise_of_full hplace hfirst, ih hplaces hrest]

/-- The counters as a raise of one after the other meets them. -/
def met (table : Vector UInt64 width) : List (Slot width) → List Nat
  | [] => []
  | place :: places =>
    cell table place.word place.digit :: met (raise (table, false) place).1 places

theorem raise_fst (table : Vector UInt64 width) (added : Bool) (place : Slot width) :
    (raise (table, added) place).1 = (raise (table, false) place).1 := by
  simp only [raise]
  split <;> rfl

theorem foldl_raise_snd (h : ∀ place ∈ places, place.Aligned) (added : Bool) :
    (places.foldl raise (table, added)).2 =
      (added || decide (∃ n ∈ met table places, n < 15)) := by
  induction places generalizing table added with
  | nil => simp [met]
  | cons place places ih =>
    obtain ⟨hplace, hplaces⟩ := List.forall_mem_cons.mp h
    rw [List.foldl_cons, ← Prod.mk.eta (p := raise (table, added) place), ih hplaces,
      raise_snd hplace, raise_fst]
    simp [met, Bool.or_assoc]

theorem exists_met_lt_iff (h : ∀ place ∈ places, place.Aligned) :
    (∃ n ∈ met table places, n < 15) ↔
      ∃ place ∈ places, cell table place.word place.digit < 15 := by
  induction places generalizing table with
  | nil => simp [met]
  | cons place places ih =>
    obtain ⟨hplace, hplaces⟩ := List.forall_mem_cons.mp h
    rw [met, List.exists_mem_cons_iff, List.exists_mem_cons_iff]
    by_cases hless : cell table place.word place.digit < 15
    · simp only [hless, true_or]
    · -- A full counter is not raised, so the others are met as they were.
      rw [raise_of_full hplace (by omega), ih hplaces]

end Table

/-! ## Effective increments -/

variable {s new : Sketch} {hash : UInt64} {calls period : List SketchCall}

/-- The increment meets a counter that is not full. -/
def Effective (s : Sketch) (hash : UInt64) : Prop := ∃ n ∈ met s.table (s.slots hash), n < 15

instance (s : Sketch) (hash : UInt64) : Decidable (s.Effective hash) :=
  inferInstanceAs (Decidable (∃ n ∈ met s.table (s.slots hash), n < 15))

theorem raised_snd (s : Sketch) (hash : UInt64) :
    (s.raised hash).2 = decide (s.Effective hash) := by
  rw [raised_eq, foldl_raise_snd (s.slots_aligned hash), Bool.false_or]
  rfl

theorem effective_iff (s : Sketch) (hash : UInt64) :
    s.Effective hash ↔ ∃ seed ∈ seeds, s.counter hash seed < 15 := by
  rw [Effective, exists_met_lt_iff (s.slots_aligned hash), slots]
  simp only [List.mem_map, exists_exists_and_eq_and]
  rfl

theorem increment_of_not_effective (h : ¬s.Effective hash) : s.increment hash = s := by
  have hfull : ∀ place ∈ s.slots hash, 15 ≤ cell s.table place.word place.digit := by
    intro place hplace
    obtain ⟨seed, hseed, rfl⟩ := List.mem_map.mp hplace
    rw [effective_iff] at h
    by_contra hless
    exact h ⟨seed, hseed, Nat.lt_of_not_le hless⟩
  have hraised : s.raised hash = (s.table, false) := by
    rw [raised_eq, foldl_raise_of_full (s.slots_aligned hash) hfull]
  have hends : s.endsPeriod hash = false := by simp [endsPeriod, hraised]
  rw [increment_eq, hends, if_neg Bool.false_ne_true, counted, hraised]
  rfl

theorem not_effective_of_full (hfull : ∀ seed ∈ seeds, s.counter hash seed = 15) :
    ¬s.Effective hash := by
  rw [effective_iff]
  rintro ⟨seed, hseed, hless⟩
  rw [hfull seed hseed] at hless
  exact Nat.lt_irrefl 15 hless

/-! ## Halvings -/

/-- The increment halves all counters when it has raised its own. -/
def Halves (s : Sketch) (hash : UInt64) : Prop := s.increment hash = (s.counted hash).reset

theorem counted_ne_reset (s : Sketch) (hash : UInt64) :
    s.counted hash ≠ (s.counted hash).reset := by
  intro heq
  have hseed : (0xABC9DEFDABCDEF01 : UInt64) ∈ seeds := List.mem_cons_self
  have hcounter := counter_counted s hash hash 0xABC9DEFDABCDEF01
  have hhits := s.hits_pos hash hseed
  have hhalf := counter_reset (s.counted hash) hash 0xABC9DEFDABCDEF01
  -- A counter that has just been raised is not its own half.
  rw [← heq] at hhalf
  omega

theorem halves_iff (s : Sketch) (hash : UInt64) : s.Halves hash ↔ s.endsPeriod hash = true := by
  rw [Halves, increment_eq]
  cases s.endsPeriod hash with
  | true => simp
  | false => simp [counted_ne_reset]

theorem increment_of_not_halves (h : ¬s.Halves hash) : s.increment hash = s.counted hash := by
  rw [halves_iff, Bool.not_eq_true] at h
  rw [increment_eq, h, if_neg Bool.false_ne_true]

/-! ## The count of a period -/

/-- The count has not gone past the threshold, and has room for one increment more. -/
structure Paced (s : Sketch) : Prop where
  additions_le : s.additions ≤ s.resetThreshold
  threshold_lt : s.resetThreshold.toNat + 1 < UInt64.size

theorem paced_empty {capacity resetMultiplier : Nat}
    (h : (empty capacity resetMultiplier).resetThreshold.toNat + 1 < UInt64.size) :
    (empty capacity resetMultiplier).Paced :=
  ⟨UInt64.zero_le, h⟩

theorem Paced.toNat_succ (h : s.Paced) : (s.additions + 1).toNat = s.additions.toNat + 1 := by
  have hle := UInt64.le_iff_toNat_le.mp h.additions_le
  have hlt := h.threshold_lt
  rw [UInt64.toNat_add]
  exact Nat.mod_eq_of_lt (by simpa using Nat.lt_of_le_of_lt (Nat.succ_le_succ hle) hlt)

theorem Paced.halves_iff (h : s.Paced) :
    s.Halves hash ↔ s.Effective hash ∧ s.additions = s.resetThreshold := by
  have hle := UInt64.le_iff_toNat_le.mp h.additions_le
  have hover : s.resetThreshold < s.additions + 1 ↔ s.additions = s.resetThreshold := by
    rw [UInt64.lt_iff_toNat_lt, h.toNat_succ, ← UInt64.toNat_inj]
    omega
  rw [Sketch.halves_iff, endsPeriod, raised_snd, ← Bool.decide_and, decide_eq_true_eq, hover]

/-! ## What a call does to the count -/

/-- The next call starts a new period. -/
def Ends (s : Sketch) : SketchCall → Prop
  | .increment hash => s.Halves hash
  | .reset | .clear => True

instance (s : Sketch) (hash : UInt64) : Decidable (s.Halves hash) :=
  decidable_of_iff _ (s.halves_iff hash).symm

def effect (s : Sketch) : SketchCall → Nat
  | .increment hash => if s.Effective hash then 1 else 0
  | .reset | .clear => 0

theorem resetThreshold_call (s : Sketch) (call : SketchCall) :
    (s.call call).resetThreshold = s.resetThreshold := by
  cases call with
  | increment hash =>
    rw [Sketch.call, increment_eq]
    split
    · rw [Sketch.reset, counted]
    · rw [counted]
  | reset => rfl
  | clear => rfl

theorem additions_of_ends {call : SketchCall} (h : s.Ends call) : (s.call call).additions = 0 := by
  cases call with
  | increment hash =>
    have hhalves : s.increment hash = (s.counted hash).reset := h
    rw [Sketch.call, hhalves, Sketch.reset]
  | reset => rfl
  | clear => rfl

namespace Paced

theorem additions_of_not_ends (h : s.Paced) {call : SketchCall} (hends : ¬s.Ends call) :
    (s.call call).additions.toNat = s.additions.toNat + s.effect call := by
  cases call with
  | reset => exact absurd trivial hends
  | clear => exact absurd trivial hends
  | increment hash =>
    simp only [Sketch.call, increment_of_not_halves hends, counted, raised_snd, effect]
    by_cases heffective : s.Effective hash
    · simp [heffective, h.toNat_succ]
    · simp [heffective]

theorem call (h : s.Paced) (call : SketchCall) : (s.call call).Paced := by
  refine ⟨?_, by rw [resetThreshold_call]; exact h.threshold_lt⟩
  rw [resetThreshold_call]
  by_cases hends : s.Ends call
  · rw [additions_of_ends hends]
    exact UInt64.zero_le
  have hle := UInt64.le_iff_toNat_le.mp h.additions_le
  have hadd := h.additions_of_not_ends hends
  rw [UInt64.le_iff_toNat_le, hadd]
  cases call with
  | reset => exact absurd trivial hends
  | clear => exact absurd trivial hends
  | increment hash =>
    -- An effective increment at the threshold would have halved the counters.
    have hnot : s.Effective hash → s.additions.toNat ≠ s.resetThreshold.toNat := fun heffective heq =>
      hends (h.halves_iff.mpr ⟨heffective, UInt64.toNat_inj.mp heq⟩)
    simp only [effect]
    split
    · have hne := hnot ‹_›
      omega
    · omega

end Paced

/-! ## Runs -/

def effectiveIn : Sketch → List SketchCall → Nat
  | _, [] => 0
  | s, call :: calls => s.effect call + effectiveIn (s.call call) calls

theorem after_append (s : Sketch) (calls more : List SketchCall) :
    s.after (calls ++ more) = (s.after calls).after more := List.foldl_append

theorem effectiveIn_concat (s : Sketch) (calls : List SketchCall) (call : SketchCall) :
    s.effectiveIn (calls ++ [call]) = s.effectiveIn calls + (s.after calls).effect call := by
  induction calls generalizing s with
  | nil => simp [effectiveIn, after]
  | cons first calls ih =>
    simp only [List.cons_append, effectiveIn, ih, Nat.add_assoc]
    rfl

theorem withinPeriod_cons_iff {call : SketchCall} :
    s.WithinPeriod (call :: calls) ↔ ¬s.Ends call ∧ (s.call call).WithinPeriod calls := by
  cases call with
  | increment hash =>
    rw [Ends, halves_iff, Bool.not_eq_true]
    rfl
  | reset => simp [WithinPeriod, Ends]
  | clear => simp [WithinPeriod, Ends]

theorem withinPeriod_concat_iff {call : SketchCall} :
    s.WithinPeriod (calls ++ [call]) ↔ s.WithinPeriod calls ∧ ¬(s.after calls).Ends call := by
  induction calls generalizing s with
  | nil =>
    rw [List.nil_append, withinPeriod_cons_iff]
    simp [WithinPeriod, after]
  | cons first calls ih =>
    rw [List.cons_append, withinPeriod_cons_iff, ih, withinPeriod_cons_iff, and_assoc]
    rfl

instance decidableWithinPeriod : (s : Sketch) → (calls : List SketchCall) →
    Decidable (s.WithinPeriod calls)
  | _, [] => .isTrue trivial
  | s, .increment hash :: calls =>
    have := decidableWithinPeriod (s.increment hash) calls
    inferInstanceAs (Decidable (s.endsPeriod hash = false ∧ _))
  | _, .reset :: _ => .isFalse id
  | _, .clear :: _ => .isFalse id

namespace Paced

theorem after (h : s.Paced) (calls : List SketchCall) : (s.after calls).Paced :=
  after_induction (fun _ call h => h.call call) h calls

theorem additions_after (h : s.Paced) (hperiod : s.WithinPeriod calls) :
    (s.after calls).additions.toNat = s.additions.toNat + s.effectiveIn calls := by
  induction calls generalizing s with
  | nil => rfl
  | cons call calls ih =>
    obtain ⟨hends, hrest⟩ := withinPeriod_cons_iff.mp hperiod
    rw [effectiveIn, ← Nat.add_assoc, ← h.additions_of_not_ends hends]
    exact ih (h.call call) hrest

end Paced

theorem resetThreshold_after (s : Sketch) (calls : List SketchCall) :
    (s.after calls).resetThreshold = s.resetThreshold :=
  after_induction (P := fun t => t.resetThreshold = s.resetThreshold)
    (fun t call h => (t.resetThreshold_call call).trans h) rfl calls

/-! ## Periods -/

/-- A run that no call has ended yet, from the start or right after a call that ended the one
before it. -/
structure IsPeriod (new : Sketch) (before period : List SketchCall) : Prop where
  starts : before = [] ∨
    ∃ earlier call, before = earlier ++ [call] ∧ (new.after earlier).Ends call
  unbroken : (new.after before).WithinPeriod period

theorem exists_isPeriod (new : Sketch) (calls : List SketchCall) :
    ∃ before period, calls = before ++ period ∧ new.IsPeriod before period := by
  induction calls using List.reverseRecOn with
  | nil => exact ⟨[], [], rfl, .inl rfl, trivial⟩
  | append_singleton calls call ih =>
    obtain ⟨before, period, rfl, hstarts, hunbroken⟩ := ih
    by_cases hends : (new.after (before ++ period)).Ends call
    · exact ⟨before ++ period ++ [call], [], by simp, .inr ⟨_, call, rfl, hends⟩, trivial⟩
    · rw [after_append] at hends
      exact ⟨before, period ++ [call], by simp, hstarts,
        withinPeriod_concat_iff.mpr ⟨hunbroken, hends⟩⟩

theorem IsPeriod.additions_start {before : List SketchCall} (hnew : new.additions = 0)
    (h : new.IsPeriod before period) : (new.after before).additions = 0 := by
  rcases h.starts with rfl | ⟨earlier, call, rfl, hends⟩
  · exact hnew
  · rw [after_append]
    exact additions_of_ends hends

theorem IsPeriod.additions_eq {before : List SketchCall} (hnew : new.additions = 0)
    (hpaced : new.Paced) (h : new.IsPeriod before period) :
    (new.after (before ++ period)).additions.toNat = (new.after before).effectiveIn period := by
  rw [after_append, (hpaced.after before).additions_after h.unbroken, h.additions_start hnew,
    UInt64.toNat_zero, Nat.zero_add]

/-- How a run from a new sketch counts its effective increments, and when it halves. -/
structure KeepsPeriods (new : Sketch) (calls : List SketchCall) : Prop where
  divided : ∃ before period, calls = before ++ period ∧ new.IsPeriod before period
  additions_eq : ∀ before period, calls = before ++ period → new.IsPeriod before period →
    (new.after calls).additions.toNat = (new.after before).effectiveIn period
  additions_le : (new.after calls).additions ≤ new.resetThreshold
  halves_iff : ∀ hash, (new.after calls).Halves hash ↔
    (new.after calls).Effective hash ∧ (new.after calls).additions = new.resetThreshold
  /-- The increment that ends a period belongs to it. -/
  full : ∀ before period hash, calls = before ++ period → new.IsPeriod before period →
    (new.after calls).Halves hash →
      (new.after before).effectiveIn (period ++ [.increment hash]) =
        new.resetThreshold.toNat + 1
  idle : ∀ hash, (∀ seed ∈ seeds, (new.after calls).counter hash seed = 15) →
    (new.after calls).increment hash = new.after calls

/-- All periods that no reset and no clear cuts short have the same number of effective
increments. -/
theorem aging_periods_have_one_length (capacity resetMultiplier : Nat)
    (h : (empty capacity resetMultiplier).resetThreshold.toNat + 1 < UInt64.size)
    (calls : List SketchCall) : (empty capacity resetMultiplier).KeepsPeriods calls := by
  have hzero : (empty capacity resetMultiplier).additions = 0 := rfl
  have hnew := paced_empty h
  generalize empty capacity resetMultiplier = new at hzero hnew
  have hpaced := hnew.after calls
  have hthreshold := new.resetThreshold_after calls
  have hhalves : ∀ hash, (new.after calls).Halves hash ↔
      (new.after calls).Effective hash ∧ (new.after calls).additions = new.resetThreshold :=
    fun hash => hthreshold ▸ hpaced.halves_iff
  have hadditions : ∀ before period, calls = before ++ period → new.IsPeriod before period →
      (new.after calls).additions.toNat = (new.after before).effectiveIn period := by
    rintro before period rfl hperiod
    exact hperiod.additions_eq hzero hnew
  refine ⟨new.exists_isPeriod calls, hadditions, hthreshold ▸ hpaced.additions_le, hhalves, ?_,
    fun hash hfull => increment_of_not_effective (not_effective_of_full hfull)⟩
  intro before period hash hcalls hperiod hends
  obtain ⟨heffective, hlast⟩ := (hhalves hash).mp hends
  have hcount := hadditions before period hcalls hperiod
  rw [hcalls, after_append] at heffective
  rw [effectiveIn_concat, effect, if_pos heffective, ← hcount, hlast]

/-- Fifteen uses of one hash fill its counters, and two more of them are not effective. The
period ends with the seventeenth increment that is. -/
theorem aging_period_of_seventeen_increments :
    let new := empty 8 2
    let period : List SketchCall := List.replicate 17 (.increment 1) ++ [.increment 2]
    new.resetThreshold.toNat + 1 < UInt64.size ∧ new.KeepsPeriods period ∧
      new.IsPeriod [] period ∧ (new.after period).Halves 3 ∧
      new.effectiveIn (period ++ [.increment 3]) = 17 := by
  intro new period
  have hthreshold : new.resetThreshold.toNat + 1 < UInt64.size := by decide +kernel
  have hkeeps := aging_periods_have_one_length 8 2 hthreshold period
  have hperiod : new.IsPeriod [] period := ⟨.inl rfl, by decide +kernel⟩
  have hhalves : (new.after period).Halves 3 := by decide +kernel
  exact ⟨hthreshold, hkeeps, hperiod, hhalves, hkeeps.full [] period 3 rfl hperiod hhalves⟩

end LfuCache.Sketch
