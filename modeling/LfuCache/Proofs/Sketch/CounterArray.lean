import Mathlib
import LfuCache.Proofs.Sketch.Aging

/-!
# The table as an array of counters

Without its words, a table is an array of counters, sixteen for each word, and none of them can
touch another. Every operation on the packed table is the same operation on this array.
-/

namespace LfuCache

/-! ## An array of counters -/

/-- The counters are numbers of their own. One is named by its word and its digit. -/
structure CounterArray where
  width : Nat
  width_pos : 0 < width
  counts : Fin width × Fin 16 → Nat
  additions : UInt64
  resetThreshold : UInt64

namespace CounterArray

def zero (width : Nat) (width_pos : 0 < width) (resetThreshold : UInt64) : CounterArray where
  width
  width_pos
  counts _ := 0
  additions := 0
  resetThreshold

/-- The upper half of the mixed hash names the word, the four bits below it the digit. -/
def place {width : Nat} (width_pos : 0 < width) (hash seed : UInt64) : Fin width × Fin 16 :=
  (⟨(hash * seed).toNat / 2 ^ 32 % width, Nat.mod_lt _ width_pos⟩,
    ⟨(hash * seed).toNat / 2 ^ 28 % 16, Nat.mod_lt _ (by omega)⟩)

/-- One more on one counter, up to fifteen. Also says if any counter was below that so far. -/
def raise {width : Nat} (state : (Fin width × Fin 16 → Nat) × Bool) (i : Fin width × Fin 16) :
    (Fin width × Fin 16 → Nat) × Bool :=
  (Function.update state.1 i (min 15 (state.1 i + 1)), state.2 || decide (state.1 i < 15))

def reset (c : CounterArray) : CounterArray :=
  { c with counts := fun i => c.counts i / 2, additions := 0 }

def clear (c : CounterArray) : CounterArray :=
  { c with counts := fun _ => 0, additions := 0 }

/-- The four counters of a hash, each raised in turn. -/
def raised (c : CounterArray) (hash : UInt64) : (Fin c.width × Fin 16 → Nat) × Bool :=
  (Sketch.seeds.map (place c.width_pos hash)).foldl raise (c.counts, false)

/-- Counts an increment if it has raised a counter. One too many ends the period. -/
def settle {width : Nat} (width_pos : 0 < width) (raised : (Fin width × Fin 16 → Nat) × Bool)
    (additions resetThreshold : UInt64) : CounterArray :=
  let additions := if raised.2 then additions + 1 else additions
  let c : CounterArray := ⟨width, width_pos, raised.1, additions, resetThreshold⟩
  if raised.2 && decide (resetThreshold < additions) then c.reset else c

def increment (c : CounterArray) (hash : UInt64) : CounterArray :=
  settle c.width_pos (c.raised hash) c.additions c.resetThreshold

def call (c : CounterArray) : SketchCall → CounterArray
  | .increment hash => c.increment hash
  | .reset => c.reset
  | .clear => c.clear

def after (c : CounterArray) (calls : List SketchCall) : CounterArray := calls.foldl call c

/-- The counts of a hash, one for each seed. -/
def countsOf (c : CounterArray) (hash : UInt64) : List Nat :=
  Sketch.seeds.map fun seed => c.counts (place c.width_pos hash seed)

end CounterArray

namespace Sketch

/-! ## Slots -/

theorem slot_word (logWidth : Nat) (hash seed : UInt64) :
    (slot logWidth hash seed).word.val = (hash * seed).toNat / 2 ^ 32 % Nat.pow 2 logWidth := by
  have hshift : (32 : UInt64).toNat % 64 = 32 := rfl
  simp only [slot, UInt64.toNat_shiftRight, hshift, Nat.shiftRight_eq_div_pow]
  -- The mask is a remainder, since the width is a power of two.
  exact Nat.and_two_pow_sub_one_eq_mod _ _

def Slot.index {width : Nat} (place : Slot width) : Fin width × Fin 16 := (place.word, place.digit)

theorem twoPow_pos (logWidth : Nat) : 0 < Nat.pow 2 logWidth := Nat.two_pow_pos logWidth

theorem slot_index (logWidth : Nat) (hash seed : UInt64) :
    (slot logWidth hash seed).index = CounterArray.place (twoPow_pos logWidth) hash seed := by
  have hdigit : (slot logWidth hash seed).digit.val = (hash * seed).toNat / 2 ^ 28 % 16 := by
    simp only [Slot.digit, toNat_shift]
    omega
  rw [Slot.index, CounterArray.place, Prod.mk.injEq, Fin.ext_iff, Fin.ext_iff]
  exact ⟨slot_word logWidth hash seed, hdigit⟩

/-! ## The array of a sketch -/

/-- All counters of the table. -/
def counters (s : Sketch) : CounterArray where
  width := s.width
  width_pos := twoPow_pos s.logWidth
  counts i := cell s.table i.1 i.2
  additions := s.additions
  resetThreshold := s.resetThreshold

section Table

variable {width : Nat} {table : Vector UInt64 width}

def cells (state : Vector UInt64 width × Bool) : (Fin width × Fin 16 → Nat) × Bool :=
  (fun i => cell state.1 i.1 i.2, state.2)

theorem cell_zeroed (table : Vector UInt64 width) (word : Fin width) (i : Fin 16) :
    cell (table.map fun _ => 0) word i = 0 := by
  unfold cell digit
  simp only [Fin.getElem_fin, Vector.getElem_map, UInt64.toNat_zero, Nat.zero_div, Nat.zero_mod]

theorem raise_snd {place : Slot width} (h : place.Aligned) (added : Bool) :
    (raise (table, added) place).2 =
      (added || decide (cell table place.word place.digit < 15)) := by
  unfold raise
  simp only [count_lt_maxCount_iff h]
  split
  · simp [*]
  · simp [*]

theorem cells_raise {place : Slot width} (h : place.Aligned) (state : Vector UInt64 width × Bool) :
    cells (raise state place) = CounterArray.raise (cells state) place.index := by
  obtain ⟨table, added⟩ := state
  refine Prod.ext ?_ (raise_snd h added)
  funext ⟨word, i⟩
  have hle := cell_le table word i
  have hindex : (word, i) = place.index ↔ place.word = word ∧ place.digit = i := by
    rw [Slot.index, Prod.mk.injEq, eq_comm, eq_comm (a := i)]
  simp only [cells, CounterArray.raise, Function.update_apply, hindex, cell_raise h]
  split
  · rename_i hsame
    obtain ⟨rfl, rfl⟩ := hsame
    rfl
  · omega

theorem cells_foldl {places : List (Slot width)} (h : ∀ place ∈ places, place.Aligned)
    (state : Vector UInt64 width × Bool) :
    cells (places.foldl raise state) =
      (places.map Slot.index).foldl CounterArray.raise (cells state) := by
  induction places generalizing state with
  | nil => rfl
  | cons place places ih =>
    obtain ⟨hplace, hplaces⟩ := List.forall_mem_cons.mp h
    rw [List.foldl_cons, ih hplaces, cells_raise hplace, List.map_cons, List.foldl_cons]

end Table

theorem counters_raised (s : Sketch) (hash : UInt64) :
    s.counters.raised hash = cells (s.raised hash) := by
  have hplaces : (s.slots hash).map Slot.index =
      seeds.map (CounterArray.place s.counters.width_pos hash) := by
    rw [slots, List.map_map]
    exact List.map_congr_left fun seed _ => slot_index s.logWidth hash seed
  rw [raised_eq, cells_foldl (s.slots_aligned hash), hplaces]
  rfl

/-! ## Each operation -/

theorem counters_reset (s : Sketch) : s.reset.counters = s.counters.reset := by
  have hcounts : s.reset.counters.counts = s.counters.reset.counts :=
    funext fun i => cell_halve s.table i.1 i.2
  exact congrArg (fun counts => { s.counters with counts, additions := 0 }) hcounts

theorem counters_clear (s : Sketch) : s.clear.counters = s.counters.clear := by
  have hcounts : s.clear.counters.counts = s.counters.clear.counts :=
    funext fun i => cell_zeroed s.table i.1 i.2
  exact congrArg (fun counts => { s.counters with counts, additions := 0 }) hcounts

theorem counters_settle {logWidth : Nat} (raised : Vector UInt64 (Nat.pow 2 logWidth) × Bool)
    (additions resetThreshold : UInt64) :
    (settle raised additions resetThreshold).counters =
      .settle (twoPow_pos logWidth) (cells raised) additions resetThreshold := by
  obtain ⟨table, added⟩ := raised
  cases added with
  | false => rfl
  | true =>
    simp only [settle, CounterArray.settle, cells, if_true, Bool.true_and]
    split
    · exact counters_reset _
    · rfl

theorem counters_increment (s : Sketch) (hash : UInt64) :
    (s.increment hash).counters = s.counters.increment hash := by
  rw [CounterArray.increment, counters_raised]
  exact counters_settle (s.raised hash) s.additions s.resetThreshold

theorem counters_call (s : Sketch) (call : SketchCall) :
    (s.call call).counters = s.counters.call call := by
  cases call with
  | increment hash => exact s.counters_increment hash
  | reset => exact s.counters_reset
  | clear => exact s.counters_clear

theorem counters_after (s : Sketch) (calls : List SketchCall) :
    (s.after calls).counters = s.counters.after calls := by
  induction calls generalizing s with
  | nil => rfl
  | cons call calls ih =>
    have hrest := ih (s.call call)
    rw [counters_call] at hrest
    exact hrest

/-! ## Estimates -/

theorem countsOf_eq (s : Sketch) (hash : UInt64) :
    s.counters.countsOf hash = seeds.map (s.counter hash) := by
  apply List.map_congr_left
  intro seed _
  have hplace : CounterArray.place s.counters.width_pos hash seed =
      (slot s.logWidth hash seed).index := (slot_index s.logWidth hash seed).symm
  rw [hplace]
  rfl

theorem min_countsOf (s : Sketch) (hash : UInt64) :
    (s.counters.countsOf hash).min? = some (s.estimate hash) := by
  rw [countsOf_eq]
  cases hmin : (seeds.map (s.counter hash)).min? with
  | none =>
    rw [List.min?_eq_none_iff] at hmin
    exact absurd hmin (by simp [seeds])
  | some least =>
    obtain ⟨hmem, hleast⟩ := List.min?_eq_some_iff.mp hmin
    obtain ⟨-, hcounters⟩ := (s.le_estimate_iff hash _).mp (Nat.le_refl _)
    have hlimit : least ≤ 15 := by
      obtain ⟨seed, -, rfl⟩ := List.mem_map.mp hmem
      exact cell_le _ _ _
    have hup : least ≤ s.estimate hash :=
      (s.le_estimate_iff hash least).mpr
        ⟨hlimit, fun seed hseed => hleast _ (List.mem_map_of_mem hseed)⟩
    have hdown : s.estimate hash ≤ least := by
      obtain ⟨seed, hseed, rfl⟩ := List.mem_map.mp hmem
      exact hcounters seed hseed
    rw [Nat.le_antisymm hup hdown]

/-! ## A new sketch -/

theorem counters_new (logWidth : Nat) (resetThreshold : UInt64) :
    counters ⟨logWidth, Vector.replicate _ 0, 0, resetThreshold⟩ =
      .zero (Nat.pow 2 logWidth) (twoPow_pos logWidth) resetThreshold := by
  have hcounts : (fun i : Fin (Nat.pow 2 logWidth) × Fin 16 =>
      cell (Vector.replicate (Nat.pow 2 logWidth) 0) i.1 i.2) = fun _ => 0 := by
    funext i
    simp [cell, digit]
  exact congrArg (fun counts => (⟨_, twoPow_pos logWidth, counts, 0, resetThreshold⟩ :
    CounterArray)) hcounts

theorem counters_empty (capacity resetMultiplier : Nat) :
    (empty capacity resetMultiplier).counters =
      .zero (empty capacity resetMultiplier).width (twoPow_pos _)
        (empty capacity resetMultiplier).resetThreshold := by
  unfold empty
  exact counters_new _ _

theorem width_empty (capacity resetMultiplier : Nat) :
    IsLeast {width : Nat | (∃ k, width = 2 ^ k) ∧ max capacity leastWidth ≤ width}
      (empty capacity resetMultiplier).width := by
  have hwide : 8 ≤ max capacity leastWidth := Nat.le_max_right capacity 8
  simp only [empty, width, Nat.pow_eq]
  generalize max capacity leastWidth = least at hwide ⊢
  refine ⟨⟨⟨_, rfl⟩, ?_⟩, ?_⟩
  · have hlt := Nat.lt_log2_self (n := least - 1)
    unfold ceilLog2
    omega
  · rintro _ ⟨⟨k, rfl⟩, hle⟩
    have hlog : (least - 1).log2 < k := (Nat.log2_lt (by omega)).mpr (by omega)
    exact Nat.pow_le_pow_right (by omega) hlog

theorem logWidth_settle {logWidth : Nat} (raised : Vector UInt64 (Nat.pow 2 logWidth) × Bool)
    (additions resetThreshold : UInt64) :
    (settle raised additions resetThreshold).logWidth = logWidth := by
  rw [settle_eq]
  split
  · rfl
  · rfl

theorem logWidth_call (s : Sketch) (call : SketchCall) : (s.call call).logWidth = s.logWidth := by
  cases call with
  | increment hash => exact logWidth_settle (s.raised hash) s.additions s.resetThreshold
  | reset => rfl
  | clear => rfl

theorem logWidth_after (s : Sketch) (calls : List SketchCall) :
    (s.after calls).logWidth = s.logWidth :=
  after_induction (P := fun t => t.logWidth = s.logWidth)
    (fun t call h => (t.logWidth_call call).trans h) rfl calls

theorem width_after (s : Sketch) (calls : List SketchCall) : (s.after calls).width = s.width :=
  congrArg (Nat.pow 2) (s.logWidth_after calls)

/-- The packed table and the array of counters never part. A slot leads to the word and to the
digit of the counter, and an estimate is the least of the four counters of its hash. -/
theorem packed_table_is_counter_array (capacity resetMultiplier : Nat) (calls : List SketchCall) :
    let new := empty capacity resetMultiplier
    let s := new.after calls
    IsLeast {width : Nat | (∃ k, width = 2 ^ k) ∧ max capacity leastWidth ≤ width} new.width ∧
      s.width = new.width ∧
      (∀ hash seed, (slot s.logWidth hash seed).word.val =
          (hash * seed).toNat / 2 ^ 32 % s.width ∧
        (slot s.logWidth hash seed).shift.toNat = 4 * ((hash * seed).toNat / 2 ^ 28 % 16)) ∧
      s.counters =
        (CounterArray.zero new.width (twoPow_pos _) new.resetThreshold).after calls ∧
      (∀ i, s.counters.counts i ≤ 15) ∧
      ∀ hash, (s.counters.countsOf hash).min? = some (s.estimate hash) := by
  intro new s
  refine ⟨width_empty capacity resetMultiplier, new.width_after calls, ?_, ?_, ?_, s.min_countsOf⟩
  · intro hash seed
    exact ⟨slot_word s.logWidth hash seed, toNat_shift s.logWidth hash seed⟩
  · rw [counters_after, counters_empty]
  · intro i
    exact cell_le s.table i.1 i.2

end Sketch

end LfuCache
