import Mathlib
import LfuCache.Proofs.Sketch.CounterArray
import LfuCache.Proofs.Sketch.Periods

/-!
# Counters between two halvings

As long as nothing is halved, a counter shows how often it was hit, up to fifteen. So the order of
increments leaves no trace in the table, and a hash with a counter to itself is counted exactly.
-/

namespace LfuCache.Sketch

/-! ## Hits -/

section Hits

variable {logWidth : Nat} {hash seed : UInt64} {hashes others : List UInt64}
  {i : Fin (Nat.pow 2 logWidth) × Fin 16}

/-- The depths of a hash that lead to a counter. -/
def depthsTo (i : Fin (Nat.pow 2 logWidth) × Fin 16) (hash : UInt64) : Nat :=
  seeds.countP fun seed => (slot logWidth hash seed).index = i

/-- The pairs of an increment and a depth that lead to a counter. -/
def hitsOn (i : Fin (Nat.pow 2 logWidth) × Fin 16) (hashes : List UInt64) : Nat :=
  (hashes ×ˢ seeds).countP fun pair => (slot logWidth pair.1 pair.2).index = i

theorem hitsOn_cons (hash : UInt64) (hashes : List UInt64) :
    hitsOn i (hash :: hashes) = depthsTo i hash + hitsOn i hashes := by
  unfold hitsOn
  rw [List.product_cons, List.countP_append, List.countP_map]
  rfl

theorem hitsOn_concat (hashes : List UInt64) (hash : UInt64) :
    hitsOn i (hashes ++ [hash]) = hitsOn i hashes + depthsTo i hash := by
  induction hashes with
  | nil =>
    rw [List.nil_append, hitsOn_cons]
    exact Nat.add_comm _ _
  | cons first hashes ih => rw [List.cons_append, hitsOn_cons, hitsOn_cons, ih, Nat.add_assoc]

theorem hitsOn_perm (h : others.Perm hashes) : hitsOn i others = hitsOn i hashes :=
  (h.product_right seeds).countP_eq _

theorem count_le_hitsOn (hseed : seed ∈ seeds) :
    hashes.count hash ≤ hitsOn (slot logWidth hash seed).index hashes := by
  induction hashes with
  | nil => exact Nat.zero_le _
  | cons other hashes ih =>
    rw [hitsOn_cons, List.count_cons]
    by_cases heq : other = hash
    · subst heq
      have hpos : 0 < depthsTo (slot logWidth other seed).index other :=
        List.countP_pos_iff.mpr ⟨seed, hseed, by simp⟩
      simp only [beq_self_eq_true, if_true]
      omega
    · simp only [beq_iff_eq, heq, if_false]
      omega

/-- Of all depths of all hashes, only this one leads to its counter. -/
def Alone (logWidth : Nat) (hashes : List UInt64) (hash seed : UInt64) : Prop :=
  ∀ other ∈ hashes, ∀ depth ∈ seeds,
    (slot logWidth other depth).index = (slot logWidth hash seed).index →
      other = hash ∧ depth = seed

-- All words are finitely many too, but too many to be looked through.
instance (logWidth : Nat) (hashes : List UInt64) (hash seed : UInt64) :
    Decidable (Alone logWidth hashes hash seed) :=
  have (other : UInt64) : Decidable (∀ depth ∈ seeds,
      (slot logWidth other depth).index = (slot logWidth hash seed).index →
        other = hash ∧ depth = seed) := List.decidableBAll _ _
  List.decidableBAll _ _

theorem Alone.hitsOn_eq (h : Alone logWidth hashes hash seed) (hseed : seed ∈ seeds) :
    hitsOn (slot logWidth hash seed).index hashes = hashes.count hash := by
  have hnodup : seeds.Nodup := by decide
  induction hashes with
  | nil => rfl
  | cons other hashes ih =>
    obtain ⟨hother, hothers⟩ := List.forall_mem_cons.mp h
    rw [hitsOn_cons, ih hothers, List.count_cons]
    by_cases heq : other = hash
    · subst heq
      have hone : depthsTo (slot logWidth other seed).index other = seeds.count seed := by
        apply List.countP_congr
        intro depth hdepth
        rw [decide_eq_true_eq, beq_iff_eq]
        constructor
        · exact fun hsame => (hother depth hdepth hsame).2
        · rintro rfl
          rfl
      rw [hone, List.count_eq_one_of_mem hnodup hseed]
      simp [Nat.add_comm]
    · have hnone : depthsTo (slot logWidth hash seed).index other = 0 := by
        apply List.countP_eq_zero.mpr
        intro depth hdepth
        rw [decide_eq_true_eq]
        exact fun hsame => heq (hother depth hdepth hsame).1
      rw [hnone]
      simp [heq]

end Hits

/-! ## Increments that halve nothing -/

variable {s t : Sketch} {hash seed : UInt64} {hashes others : List UInt64}

/-- Each counter shows how often it was hit, up to its limit. -/
def Tallies (s : Sketch) (hashes : List UInt64) : Prop :=
  ∀ i, cell s.table i.1 i.2 = min 15 (hitsOn i hashes)

theorem tallies_mk {logWidth : Nat} {table : Vector UInt64 (Nat.pow 2 logWidth)}
    {additions resetThreshold : UInt64} :
    Tallies ⟨logWidth, table, additions, resetThreshold⟩ hashes ↔
      ∀ i, cell table i.1 i.2 = min 15 (hitsOn i hashes) := Iff.rfl

/-- All counters are zero. -/
def Blank (s : Sketch) : Prop := ∀ word i, cell s.table word i = 0

theorem blank_new (logWidth : Nat) (resetThreshold : UInt64) :
    Blank ⟨logWidth, Vector.replicate _ 0, 0, resetThreshold⟩ := by
  intro word i
  simp [cell, digit]

theorem blank_empty (capacity resetMultiplier : Nat) : (empty capacity resetMultiplier).Blank :=
  blank_new _ _

theorem blank_clear (s : Sketch) : s.clear.Blank := fun word i => cell_zeroed s.table word i

theorem Blank.tallies_nil (h : s.Blank) : s.Tallies [] := fun i => h i.1 i.2

theorem countP_slots (s : Sketch) (hash : UInt64) (i : Fin (Nat.pow 2 s.logWidth) × Fin 16) :
    ((s.slots hash).countP fun place => place.word = i.1 ∧ place.digit = i.2) =
      depthsTo i hash := by
  rw [slots, List.countP_map, depthsTo]
  apply List.countP_congr
  intro depth _
  simp [Slot.index, Prod.ext_iff]

theorem cell_counted (s : Sketch) (hash : UInt64) (i : Fin (Nat.pow 2 s.logWidth) × Fin 16) :
    cell (s.raised hash).1 i.1 i.2 = min 15 (cell s.table i.1 i.2 + depthsTo i hash) := by
  rw [raised_eq, cell_raiseAll (s.slots_aligned hash), countP_slots]

theorem Tallies.counted (h : s.Tallies hashes) (hash : UInt64) :
    (s.counted hash).Tallies (hashes ++ [hash]) := by
  rw [Sketch.counted, tallies_mk]
  intro i
  rw [cell_counted, h i, hitsOn_concat]
  omega

theorem after_increment (s : Sketch) (hashes : List UInt64) (hash : UInt64) :
    s.after ((hashes ++ [hash]).map .increment) =
      (s.after (hashes.map .increment)).increment hash := by
  rw [List.map_append, after_append, List.map_singleton]
  generalize s.after (hashes.map .increment) = t
  rw [after, List.foldl_cons, List.foldl_nil, call]

theorem withinPeriod_increment_iff (s : Sketch) (hashes : List UInt64) (hash : UInt64) :
    s.WithinPeriod ((hashes ++ [hash]).map .increment) ↔
      s.WithinPeriod (hashes.map .increment) ∧ ¬(s.after (hashes.map .increment)).Halves hash := by
  rw [List.map_append]
  exact withinPeriod_concat_iff

theorem Blank.tallies_after (h : s.Blank) (hperiod : s.WithinPeriod (hashes.map .increment)) :
    (s.after (hashes.map .increment)).Tallies hashes := by
  induction hashes using List.reverseRecOn with
  | nil => exact h.tallies_nil
  | append_singleton hashes hash ih =>
    rw [withinPeriod_increment_iff] at hperiod
    rw [after_increment, increment_of_not_halves hperiod.2]
    exact (ih hperiod.1).counted hash

/-! ## What the counters show -/

theorem Tallies.eq_of_perm (hs : s.Tallies hashes) (ht : t.Tallies others)
    (hwidth : t.logWidth = s.logWidth) (h : others.Perm hashes) :
    t = { s with additions := t.additions, resetThreshold := t.resetThreshold } := by
  obtain ⟨logWidth, table, additions, resetThreshold⟩ := s
  obtain ⟨_, other, _, _⟩ := t
  cases hwidth
  have htable : other = table := by
    apply table_ext
    intro word i
    rw [ht (word, i), hs (word, i), hitsOn_perm h]
  rw [htable]

theorem Tallies.estimate_eq (h : s.Tallies hashes) (hseed : seed ∈ seeds)
    (halone : Alone s.logWidth hashes hash seed) :
    s.estimate hash = min 15 (hashes.count hash) := by
  obtain ⟨hlimit, hcounters⟩ := (s.le_estimate_iff hash _).mp (Nat.le_refl _)
  have hcounter : ∀ depth, s.counter hash depth =
      min 15 (hitsOn (slot s.logWidth hash depth).index hashes) := fun depth =>
    h (slot s.logWidth hash depth).index
  have hdown := hcounters seed hseed
  rw [hcounter, halone.hitsOn_eq hseed] at hdown
  refine Nat.le_antisymm hdown ((s.le_estimate_iff hash _).mpr ⟨Nat.min_le_left _ _, ?_⟩)
  intro depth hdepth
  have hcount : hashes.count hash ≤ hitsOn (slot s.logWidth hash depth).index hashes :=
    count_le_hitsOn hdepth
  rw [hcounter]
  omega

/-- From zero on, and as long as nothing is halved, a counter is the number of its hits, up to
fifteen. The order of the increments is only left in the count of the period. -/
theorem increments_show_their_hits (s : Sketch) (hblank : s.Blank) (hashes : List UInt64)
    (hperiod : s.WithinPeriod (hashes.map .increment)) :
    let shown := s.after (hashes.map .increment)
    shown.logWidth = s.logWidth ∧ shown.Tallies hashes ∧
      (∀ (t : Sketch) (others : List UInt64), t.Blank → t.logWidth = s.logWidth →
        others.Perm hashes → t.WithinPeriod (others.map .increment) →
          let same := t.after (others.map .increment)
          same = { shown with
            additions := same.additions, resetThreshold := same.resetThreshold } ∧
          ∀ hash, same.estimate hash = shown.estimate hash) ∧
      ∀ hash, ∀ seed ∈ seeds, Alone s.logWidth hashes hash seed →
        shown.estimate hash = min 15 (hashes.count hash) := by
  intro shown
  have hwidth : shown.logWidth = s.logWidth := s.logWidth_after _
  have hshown : shown.Tallies hashes := hblank.tallies_after hperiod
  refine ⟨hwidth, hshown, ?_, ?_⟩
  · intro t others hother hlog hperm hothers same
    have hsame : same.Tallies others := hother.tallies_after hothers
    have hlogs : same.logWidth = shown.logWidth := by
      rw [hwidth, ← hlog]
      exact t.logWidth_after _
    have heq := hshown.eq_of_perm hsame hlogs hperm
    refine ⟨heq, fun hash => ?_⟩
    rw [heq]
    rfl
  · intro hash seed hseed halone
    exact hshown.estimate_eq hseed (hwidth ▸ halone)

theorem increments_show_their_hits_in_either_order :
    let s := empty 16 2
    let t := (s.increment 7).clear
    let hashes : List UInt64 := [1, 2, 1, 3]
    let others : List UInt64 := [3, 1, 1, 2]
    s.Blank ∧ s.WithinPeriod (hashes.map .increment) ∧ t.Blank ∧ t.logWidth = s.logWidth ∧
      others.Perm hashes ∧ t.WithinPeriod (others.map .increment) ∧
      (∀ hash, (t.after (others.map .increment)).estimate hash =
        (s.after (hashes.map .increment)).estimate hash) ∧
      Alone s.logWidth hashes 1 0xABC9DEFDABCDEF01 ∧
      (s.after (hashes.map .increment)).estimate 1 = 2 := by
  intro s t hashes others
  have hblank : s.Blank := blank_empty 16 2
  have hperiod : s.WithinPeriod (hashes.map .increment) := by decide +kernel
  have hother : t.Blank := blank_clear _
  have hlog : t.logWidth = s.logWidth := by decide +kernel
  have hperm : others.Perm hashes := by decide
  have hothers : t.WithinPeriod (others.map .increment) := by decide +kernel
  have halone : Alone s.logWidth hashes 1 0xABC9DEFDABCDEF01 := by decide +kernel
  have hcount : min 15 (hashes.count 1) = 2 := by decide
  clear_value s t hashes others
  obtain ⟨-, -, hsame, hexact⟩ := increments_show_their_hits s hblank hashes hperiod
  have hestimate := hexact 1 0xABC9DEFDABCDEF01 List.mem_cons_self halone
  exact ⟨hblank, hperiod, hother, hlog, hperm, hothers,
    (hsame t others hother hlog hperm hothers).2, halone, hestimate.trans hcount⟩

end LfuCache.Sketch
