import Std.Data.TreeMap
import LfuCache.Decimal.Double
import LfuCache.Entry
import LfuCache.Random.Generator

/-!
# Window and main

Each resident key of a shard has a place. The window keeps its keys in the order they came
and has a budget of its own. Main keeps the others in an array, so that a random one is
found at once. Victims are drawn from main, and the oldest key of the window is one more.
-/

namespace LfuCache

structure Placement where
  /-- The window keys by arrival number, the oldest first. -/
  window : Std.TreeMap Nat Key
  /-- The arrival number of each window key. -/
  windowSlots : Std.TreeMap Key Nat
  nextArrival : Nat
  windowCost : Nat
  windowCapacity : Nat
  main : Array Key
  /-- The index of each main key. -/
  mainSlots : Std.TreeMap Key Nat
  mainCost : Nat
  /-- Main keys in one sample, at most. -/
  sampleSize : Nat
  random : Generator

namespace Placement

/-! ## A new placement -/

/-- The part of the capacity that the ratio names, without its fraction. The window gets at
least one unit, and no more than there is. -/
def windowBudget (capacity : Nat) (ratio : Double) : Nat :=
  min (max ((UInt64.ofNat capacity).toFloat * ratio.toFloat).toUInt64.toNat 1) (max capacity 1)

def empty (windowCapacity sampleSize : Nat) (random : Generator) : Placement where
  window := ∅
  windowSlots := ∅
  nextArrival := 0
  windowCost := 0
  windowCapacity
  main := #[]
  mainSlots := ∅
  mainCost := 0
  sampleSize := max sampleSize 1
  random

/-- An entry of this cost fits in the window as it is. -/
def windowHasRoom (p : Placement) (cost : Nat) : Bool :=
  decide (p.windowCost + cost ≤ p.windowCapacity)

/-! ## Keys come and go -/

def pushWindow (p : Placement) (key : Key) (cost : Nat) : Placement :=
  { p with
    window := p.window.insert p.nextArrival key
    windowSlots := p.windowSlots.insert key p.nextArrival
    nextArrival := p.nextArrival + 1
    windowCost := p.windowCost + cost }

def pushMain (p : Placement) (key : Key) (cost : Nat) : Placement :=
  { p with
    main := p.main.push key
    mainSlots := p.mainSlots.insert key p.main.size
    mainCost := p.mainCost + cost }

def insert (p : Placement) (key : Key) (segment : Segment) (cost : Nat) : Placement :=
  match segment with
  | .window => p.pushWindow key cost
  | .main => p.pushMain key cost

/-- Takes a key out of the window, or says that it is not there. -/
def takeWindow (p : Placement) (key : Key) (cost : Nat) : Option Placement :=
  (p.windowSlots[key]?).map fun arrival =>
    { p with
      window := p.window.erase arrival
      windowSlots := p.windowSlots.erase key
      windowCost := p.windowCost - cost }

/-- The last element moves to where the removed one was. -/
def swapRemove (keys : Array Key) (i : Nat) : Array Key :=
  (keys.swapIfInBounds i (keys.size - 1)).pop

/-- Takes a key out of main, or says that it is not there. -/
def takeMain (p : Placement) (key : Key) (cost : Nat) : Option Placement :=
  (p.mainSlots[key]?).map fun i =>
    let main := swapRemove p.main i
    let slots := p.mainSlots.erase key
    { p with
      main
      mainSlots := match main[i]? with
        | some moved => slots.insert moved i
        | none => slots
      mainCost := p.mainCost - cost }

/-- A key that is not in the segment leaves the placement as it is. -/
def remove (p : Placement) (key : Key) (segment : Segment) (cost : Nat) : Placement :=
  match segment with
  | .window => (p.takeWindow key cost).getD p
  | .main => (p.takeMain key cost).getD p

/-- The cost of a key in the segment has changed. -/
def adjustCost (p : Placement) (segment : Segment) (old new : Nat) : Placement :=
  match segment with
  | .window => { p with windowCost := p.windowCost - old + new }
  | .main => { p with mainCost := p.mainCost - old + new }

/-- Moves a window key to main. Nothing happens to other keys. -/
def promote (p : Placement) (key : Key) (cost : Nat) : Bool × Placement :=
  match p.takeWindow key cost with
  | some p => (true, p.pushMain key cost)
  | none => (false, p)

/-- Forgets every key. The arrival numbers go on. -/
def clear (p : Placement) : Placement :=
  { p with
    window := ∅, windowSlots := ∅, windowCost := 0
    main := #[], mainSlots := ∅, mainCost := 0 }

/-! ## Samples -/

/-- Draws allowed for each key of a sample. -/
def drawsPerKey : Nat := 8

/-- Draws main keys until enough are picked or the draws run out. A key counts once. -/
def drawMain (main : Array Key) (nonempty : 0 < main.size) (wanted : Nat) (exclude : List Key) :
    Nat → List Key → Generator → List Key × Generator
  | 0, picked, random => (picked, random)
  | draws + 1, picked, random =>
    if picked.length < wanted then
      let (i, random) := random.below main.size nonempty
      let key := main[i]
      let picked := if key ∈ exclude ∨ key ∈ picked then picked else picked ++ [key]
      drawMain main nonempty wanted exclude draws picked random
    else (picked, random)

/-- Main keys that may be given up. If main is small, no draw is needed. -/
def sampleMain (p : Placement) (exclude : List Key) : List Key × Generator :=
  if h : p.main.size ≤ p.sampleSize + exclude.length then
    ((p.main.toList.filter fun key => key ∉ exclude).take p.sampleSize, p.random)
  else
    drawMain p.main (by omega) p.sampleSize exclude (p.sampleSize * drawsPerKey) [] p.random

def oldestWindow (p : Placement) (exclude : List Key) : Option Key :=
  p.window.values.find? fun key => key ∉ exclude

/-- Keys that may be given up: some of main, then the oldest of the window. -/
def sample (p : Placement) (exclude : List Key) : List Key × Placement :=
  let (picked, random) := p.sampleMain exclude
  (picked ++ (p.oldestWindow exclude).toList, { p with random })

end Placement

end LfuCache
