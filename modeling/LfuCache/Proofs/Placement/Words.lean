import Mathlib
import LfuCache.Proofs.Placement.Costs

/-!
# Placements that count in words

A cost is a word of 64 bits, but the sum of two words may be too large for one, and a difference
may be negative. The operations that count costs are written once more with sums and differences
that notice, and give nothing if one of them fails. As long as the costs are those of the entries,
none fails, and the operation gives what it always gives.
-/

namespace LfuCache

/-! ## Words -/

namespace Word

/-- The sum of two words, if it is a word. -/
def add? (a b : Nat) : Option Nat := if a + b < UInt64.size then some (a + b) else none

/-- The difference of two words, if it is not negative. -/
def sub? (a b : Nat) : Option Nat := if b ≤ a then some (a - b) else none

theorem add?_of_lt {a b : Nat} (h : a + b < UInt64.size) : add? a b = some (a + b) := if_pos h

theorem sub?_of_le {a b : Nat} (h : b ≤ a) : sub? a b = some (a - b) := if_pos h

end Word

namespace Placement

open Word

variable {p taken : Placement} {key : Key} {segment : Segment} {cost : Nat}

/-! ## The cost of a segment -/

def withCost (p : Placement) (segment : Segment) (cost : Nat) : Placement :=
  match segment with
  | .window => { p with windowCost := cost }
  | .main => { p with mainCost := cost }

theorem withCost_costIn (p : Placement) (segment : Segment) :
    p.withCost segment (p.costIn segment) = p := by
  cases segment <;> rfl

/-- Takes a key out of a segment, or says that it is not there. -/
def take (p : Placement) (key : Key) (segment : Segment) (cost : Nat) : Option Placement :=
  match segment with
  | .window => p.takeWindow key cost
  | .main => p.takeMain key cost

theorem costIn_take (h : p.take key segment cost = some taken) (place : Segment) :
    taken.costIn place = p.costIn place - if place = segment then cost else 0 := by
  cases segment with
  | window =>
    obtain ⟨arrival, -, rfl⟩ := Option.map_eq_some_iff.mp h
    cases place <;> rfl
  | main =>
    obtain ⟨i, -, rfl⟩ := Option.map_eq_some_iff.mp h
    cases place <;> rfl

theorem remove_eq_take (p : Placement) (key : Key) (segment : Segment) (cost : Nat) :
    p.remove key segment cost = (p.take key segment cost).getD p := by
  cases segment <;> rfl

/-! ## Operations -/

def windowHasRoom? (p : Placement) (cost : Nat) : Option Bool := do
  let sum ← add? p.windowCost cost
  return decide (sum ≤ p.windowCapacity)

def insert? (p : Placement) (key : Key) (segment : Segment) (cost : Nat) : Option Placement := do
  let sum ← add? (p.costIn segment) cost
  return (p.insert key segment cost).withCost segment sum

def remove? (p : Placement) (key : Key) (segment : Segment) (cost : Nat) : Option Placement :=
  match p.take key segment cost with
  | none => some p
  | some taken => do
    let left ← sub? (p.costIn segment) cost
    return taken.withCost segment left

def promote? (p : Placement) (key : Key) (cost : Nat) : Option (Bool × Placement) :=
  match p.takeWindow key cost with
  | none => some (false, p)
  | some taken => do
    let left ← sub? p.windowCost cost
    let promoted ← (taken.withCost .window left).insert? key .main cost
    return (true, promoted)

def adjustCost? (p : Placement) (segment : Segment) (old new : Nat) : Option Placement := do
  let others ← sub? (p.costIn segment) old
  let sum ← add? others new
  return p.withCost segment sum

theorem windowHasRoom?_eq (h : p.windowCost + cost < UInt64.size) :
    p.windowHasRoom? cost = some (p.windowHasRoom cost) := by
  rw [windowHasRoom?, add?_of_lt h]
  rfl

theorem insert?_eq (h : p.costIn segment + cost < UInt64.size) :
    p.insert? key segment cost = some (p.insert key segment cost) := by
  have hsum : (p.insert key segment cost).costIn segment = p.costIn segment + cost := by
    rw [costIn_insert, if_pos rfl]
  rw [insert?, add?_of_lt h, ← hsum]
  exact congrArg some (withCost_costIn _ segment)

theorem remove?_eq (h : cost ≤ p.costIn segment) :
    p.remove? key segment cost = some (p.remove key segment cost) := by
  rw [remove?, remove_eq_take]
  cases htake : p.take key segment cost with
  | none => rfl
  | some taken =>
    have hleft := costIn_take htake segment
    rw [if_pos rfl] at hleft
    simp only [sub?_of_le h, ← hleft]
    exact congrArg some (withCost_costIn taken segment)

theorem promote?_eq (hwindow : cost ≤ p.windowCost) (hmain : p.mainCost + cost < UInt64.size) :
    p.promote? key cost = some (p.promote key cost) := by
  rw [promote?, promote]
  cases htake : p.takeWindow key cost with
  | none => rfl
  | some taken =>
    have htaken : p.take key .window cost = some taken := htake
    have hleft : taken.windowCost = p.windowCost - cost := costIn_take htaken .window
    have hsame : taken.mainCost = p.mainCost := costIn_take htaken .main
    have hpush : taken.insert? key .main cost = some (taken.pushMain key cost) :=
      insert?_eq (by rwa [costIn, hsame])
    simp only [sub?_of_le hwindow, ← hleft, Option.bind_eq_bind, Option.bind_some]
    rw [show taken.withCost .window taken.windowCost = taken from rfl, hpush]
    rfl

theorem adjustCost?_eq {old new : Nat} (hold : old ≤ p.costIn segment)
    (hnew : p.costIn segment - old + new < UInt64.size) :
    p.adjustCost? segment old new = some (p.adjustCost segment old new) := by
  simp only [adjustCost?, sub?_of_le hold, Option.bind_eq_bind, Option.bind_some,
    add?_of_lt hnew]
  cases segment <;> rfl

/-! ## Costs of residents -/

namespace Places

variable {entries : Entries} {entry : Entry}

theorem cost_le_costIn (h : p.Places entries) (hget : entries[key]? = some entry) :
    entry.cost ≤ p.costIn entry.segment := by
  have hle := Map.le_total (w := Entry.costIn entry.segment) hget
  rwa [Entry.costIn, if_pos rfl, ← segmentCost, ← h.cost_eq] at hle

end Places

end Placement

end LfuCache
