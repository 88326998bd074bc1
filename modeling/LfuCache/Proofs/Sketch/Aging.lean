import Mathlib
import LfuCache.Proofs.Sketch.Cells

/-!
# Estimates and exact counts

The exact count of a hash is what a counter of its own would show: it goes up with each use of
the hash, stops at fifteen, and is halved whenever the table is. Hashes that share counters
can only push each other up, so an estimate is never below the exact count.
-/

namespace LfuCache

inductive SketchCall where
  | increment (hash : UInt64)
  | reset
  | clear
deriving DecidableEq

namespace Sketch

def call (s : Sketch) : SketchCall → Sketch
  | .increment hash => s.increment hash
  | .reset => s.reset
  | .clear => s.clear

def after (s : Sketch) (calls : List SketchCall) : Sketch := calls.foldl call s

theorem after_induction {P : Sketch → Prop} (hstep : ∀ s call, P s → P (s.call call))
    {s : Sketch} (h : P s) (calls : List SketchCall) : P (s.after calls) := by
  induction calls generalizing s with
  | nil => exact h
  | cons call calls ih => exact ih (hstep s call h)

/-! ## What a call does to the counters of a hash -/

def slots (s : Sketch) (hash : UInt64) : List (Slot (Nat.pow 2 s.logWidth)) :=
  seeds.map (slot s.logWidth hash)

theorem slots_aligned (s : Sketch) (hash : UInt64) : ∀ place ∈ s.slots hash, place.Aligned := by
  intro place hplace
  obtain ⟨seed, -, rfl⟩ := List.mem_map.mp hplace
  exact slot_aligned s.logWidth hash seed

/-- The counter of a hash at one depth. -/
def counter (s : Sketch) (hash seed : UInt64) : Nat :=
  cell s.table (slot s.logWidth hash seed).word (slot s.logWidth hash seed).digit

def raised (s : Sketch) (hash : UInt64) : Vector UInt64 (Nat.pow 2 s.logWidth) × Bool :=
  raiseAll s.logWidth hash s.table

theorem raised_eq (s : Sketch) (hash : UInt64) :
    s.raised hash = (s.slots hash).foldl raise (s.table, false) := by
  rw [raised, raiseAll, slots, List.foldl_map]

/-- The increment raises a counter, and is one more than a period has. -/
def endsPeriod (s : Sketch) (hash : UInt64) : Bool :=
  (s.raised hash).2 && decide (s.resetThreshold < s.additions + 1)

def counted (s : Sketch) (hash : UInt64) : Sketch :=
  { s with
    table := (s.raised hash).1
    additions := if (s.raised hash).2 then s.additions + 1 else s.additions }

theorem settle_eq {logWidth : Nat} (raised : Vector UInt64 (Nat.pow 2 logWidth) × Bool)
    (additions resetThreshold : UInt64) :
    settle raised additions resetThreshold =
      if raised.2 && decide (resetThreshold < additions + 1) then
        reset ⟨logWidth, raised.1, if raised.2 then additions + 1 else additions, resetThreshold⟩
      else ⟨logWidth, raised.1, if raised.2 then additions + 1 else additions, resetThreshold⟩ := by
  obtain ⟨table, added⟩ := raised
  cases added <;> simp [settle]

theorem increment_eq (s : Sketch) (hash : UInt64) :
    s.increment hash = if s.endsPeriod hash then (s.counted hash).reset else s.counted hash :=
  settle_eq (s.raised hash) s.additions s.resetThreshold

theorem counter_mk {logWidth : Nat} (table : Vector UInt64 (Nat.pow 2 logWidth))
    (additions resetThreshold hash seed : UInt64) :
    counter ⟨logWidth, table, additions, resetThreshold⟩ hash seed =
      cell table (slot logWidth hash seed).word (slot logWidth hash seed).digit := rfl

theorem counter_reset (s : Sketch) (hash seed : UInt64) :
    s.reset.counter hash seed = s.counter hash seed / 2 := cell_halve _ _ _

/-- Among the slots of a hash, those that lead to the given counter. -/
def hits (s : Sketch) (other hash seed : UInt64) : Nat :=
  (s.slots other).countP fun place => place.word = (slot s.logWidth hash seed).word ∧
    place.digit = (slot s.logWidth hash seed).digit

theorem hits_pos (s : Sketch) (hash : UInt64) {seed : UInt64} (hseed : seed ∈ seeds) :
    0 < s.hits hash hash seed := by
  unfold hits
  rw [List.countP_pos_iff]
  exact ⟨_, List.mem_map_of_mem hseed, by simp⟩

theorem counter_counted (s : Sketch) (other hash seed : UInt64) :
    (s.counted other).counter hash seed =
      min 15 (s.counter hash seed + s.hits other hash seed) := by
  rw [counted, counter_mk, raised_eq, cell_raiseAll (s.slots_aligned other)]
  rfl

theorem counter_increment (s : Sketch) (other hash seed : UInt64) :
    (s.increment other).counter hash seed =
      if s.endsPeriod other then min 15 (s.counter hash seed + s.hits other hash seed) / 2
      else min 15 (s.counter hash seed + s.hits other hash seed) := by
  rw [increment_eq]
  split
  · rw [counter_reset, counter_counted]
  · exact counter_counted s other hash seed

/-! ## Estimates -/

theorem le_toNat_min {n : Nat} (a b : UInt64) :
    n ≤ (min a b).toNat ↔ n ≤ a.toNat ∧ n ≤ b.toNat := by
  rw [UInt64.toNat_min, Nat.le_min]

theorem le_estimate_iff (s : Sketch) (hash : UInt64) (n : Nat) :
    n ≤ s.estimate hash ↔ n ≤ 15 ∧ ∀ seed ∈ seeds, n ≤ s.counter hash seed := by
  have hfold : ∀ (l : List UInt64) (m : UInt64),
      n ≤ (l.foldl (fun least seed => min least (count s.table (slot s.logWidth hash seed)))
          m).toNat ↔
        n ≤ m.toNat ∧ ∀ seed ∈ l, n ≤ s.counter hash seed := by
    intro l
    induction l with
    | nil => simp
    | cons seed l ih =>
      intro m
      rw [List.foldl_cons, ih, le_toNat_min, toNat_count (slot_aligned _ _ _), List.forall_mem_cons,
        and_assoc]
      rfl
  exact hfold seeds maxCount

theorem estimate_le (s : Sketch) (hash : UInt64) : s.estimate hash ≤ 15 :=
  ((s.le_estimate_iff hash _).mp (Nat.le_refl _)).1

/-! ## Exact counts -/

/-- What a call does to the exact count of a hash. -/
def agedStep (s : Sketch) (hash : UInt64) (uses : Nat) : SketchCall → Nat
  | .increment other =>
    let used := if other = hash then min 15 (uses + 1) else uses
    if s.endsPeriod other then used / 2 else used
  | .reset => uses / 2
  | .clear => 0

def agedFrom (hash : UInt64) : Sketch → Nat → List SketchCall → Nat
  | _, uses, [] => uses
  | s, uses, call :: calls => agedFrom hash (s.call call) (s.agedStep hash uses call) calls

/-- The exact count of a hash after a run, from zero on. -/
def agedCount (s : Sketch) (hash : UInt64) (calls : List SketchCall) : Nat :=
  agedFrom hash s 0 calls

/-- No call of the run halves the counters or clears them. -/
def WithinPeriod : Sketch → List SketchCall → Prop
  | _, [] => True
  | s, .increment hash :: calls => s.endsPeriod hash = false ∧ WithinPeriod (s.increment hash) calls
  | _, .reset :: _ => False
  | _, .clear :: _ => False

theorem agedStep_le_estimate {s : Sketch} {hash : UInt64} {uses : Nat}
    (h : uses ≤ s.estimate hash) (call : SketchCall) :
    s.agedStep hash uses call ≤ (s.call call).estimate hash := by
  obtain ⟨hlimit, hcounters⟩ := (s.le_estimate_iff hash uses).mp h
  rw [le_estimate_iff]
  cases call with
  | clear => exact ⟨Nat.zero_le _, fun _ _ => Nat.zero_le _⟩
  | reset =>
    simp only [agedStep, call]
    refine ⟨by omega, fun seed hseed => ?_⟩
    have hcounter := hcounters seed hseed
    rw [counter_reset]
    omega
  | increment other =>
    simp only [agedStep, call]
    refine ⟨by split <;> split <;> omega, fun seed hseed => ?_⟩
    have hcounter := hcounters seed hseed
    -- A use of the hash itself hits each of its counters. Others may hit them too.
    have hused : (if other = hash then min 15 (uses + 1) else uses) ≤
        min 15 (s.counter hash seed + s.hits other hash seed) := by
      split
      · rename_i heq
        subst heq
        have hpos := s.hits_pos other hseed
        omega
      · omega
    rw [counter_increment]
    split
    · exact Nat.div_le_div_right hused
    · exact hused

theorem agedFrom_le_estimate {s : Sketch} {hash : UInt64} {uses : Nat}
    (h : uses ≤ s.estimate hash) (calls : List SketchCall) :
    agedFrom hash s uses calls ≤ (s.after calls).estimate hash := by
  induction calls generalizing s uses with
  | nil => exact h
  | cons call calls ih => exact ih (agedStep_le_estimate h call)

theorem agedFrom_withinPeriod {s : Sketch} {hash : UInt64} {uses : Nat} (hlimit : uses ≤ 15)
    {calls : List SketchCall} (h : s.WithinPeriod calls) :
    agedFrom hash s uses calls = min 15 (uses + calls.count (.increment hash)) := by
  induction calls generalizing s uses with
  | nil => simpa [agedFrom] using hlimit
  | cons call calls ih =>
    cases call with
    | reset => exact absurd h id
    | clear => exact absurd h id
    | increment other =>
      obtain ⟨hends, hrest⟩ := h
      simp only [agedFrom, agedStep, hends, call, Bool.false_eq_true, if_false]
      rw [ih (by split <;> omega) hrest, List.count_cons]
      by_cases heq : other = hash
      · subst heq
        simp only [if_true, beq_self_eq_true]
        omega
      · simp [heq]

/-- No run brings an estimate below the exact count. While no counter is halved or cleared, the
exact count is the number of increments, up to fifteen. -/
theorem aged_count_le_estimate (s : Sketch) (hash : UInt64) (calls : List SketchCall) :
    s.agedCount hash calls ≤ (s.after calls).estimate hash ∧
      (s.WithinPeriod calls →
        min 15 (calls.count (.increment hash)) ≤ (s.after calls).estimate hash) := by
  have hle : s.agedCount hash calls ≤ (s.after calls).estimate hash :=
    agedFrom_le_estimate (Nat.zero_le _) calls
  refine ⟨hle, fun hperiod => ?_⟩
  rwa [agedCount, agedFrom_withinPeriod (Nat.zero_le _) hperiod, Nat.zero_add] at hle

theorem aged_count_le_estimate_after_three_uses :
    let s := Sketch.empty 16 2
    let calls : List SketchCall := [.increment 1, .increment 2, .increment 1]
    s.WithinPeriod calls ∧ s.agedCount 1 calls ≤ (s.after calls).estimate 1 ∧
      min 15 (calls.count (.increment 1)) ≤ (s.after calls).estimate 1 := by
  intro s calls
  have hperiod : s.WithinPeriod calls :=
    ⟨by decide +kernel, by decide +kernel, by decide +kernel, trivial⟩
  obtain ⟨hcount, hwithin⟩ := aged_count_le_estimate s 1 calls
  exact ⟨hperiod, hcount, hwithin hperiod⟩

end Sketch

end LfuCache
