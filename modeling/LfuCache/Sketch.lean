/-!
# How often a key was used

A table of words, each of sixteen 4-bit counters. A hash has one counter for each of four
seeds, and its estimate is the least of them. Keys that share a counter only raise each
other's estimate. Counters are halved from time to time, so that old use fades.
-/

namespace LfuCache

structure Sketch where
  /-- The binary logarithm of the number of words. -/
  logWidth : Nat
  table : Vector UInt64 (Nat.pow 2 logWidth)
  /-- Increments since the counters were last halved. -/
  additions : UInt64
  /-- The counters are halved once `additions` is above this. -/
  resetThreshold : UInt64

namespace Sketch

/-- One multiplier for each depth. -/
def seeds : List UInt64 :=
  [0xABC9DEFDABCDEF01, 0xFEDCBA9876543210, 0x0F1E2D3C4B5A6978, 0x9876543210ABCDEF]

/-- Clears the top bit of each counter, where a shift leaves a bit of its neighbour. -/
def halvingMask : UInt64 := 0x7777777777777777

def leastWidth : Nat := 8

def maxCount : UInt64 := 15

/-! ## Size -/

/-- The exponent of the least power of two that is not below `n`, for `n` above one. -/
def ceilLog2 (n : Nat) : Nat := (n - 1).log2 + 1

/-- The wanted width is rounded up to a power of two. A period lasts at most as many
increments as a word can count. -/
def empty (capacity resetMultiplier : Nat) : Sketch :=
  let logWidth := ceilLog2 (max capacity leastWidth)
  { logWidth
    table := Vector.replicate _ 0
    additions := 0
    resetThreshold :=
      UInt64.ofNat (min (Nat.pow 2 logWidth * max resetMultiplier 1) (UInt64.size - 1)) }

def width (s : Sketch) : Nat := Nat.pow 2 s.logWidth

/-! ## Slots -/

/-- Where a counter is: a word, and the place of its lowest bit in the word. -/
structure Slot (width : Nat) where
  word : Fin width
  shift : UInt64

def slot (logWidth : Nat) (hash seed : UInt64) : Slot (Nat.pow 2 logWidth) :=
  let mixed := hash * seed
  { word := ⟨(mixed >>> 32).toNat &&& (Nat.pow 2 logWidth - 1),
      Nat.and_lt_two_pow _ (Nat.sub_lt (Nat.two_pow_pos _) Nat.one_pos)⟩
    shift := ((mixed >>> 28) &&& 0xF) <<< 2 }

def count {width : Nat} (table : Vector UInt64 width) (place : Slot width) : UInt64 :=
  (table[place.word] >>> place.shift) &&& 0xF

/-! ## Use -/

/-- Between 0 and 15. -/
def estimate (s : Sketch) (hash : UInt64) : Nat :=
  (seeds.foldl (fun least seed => min least (count s.table (slot s.logWidth hash seed)))
    maxCount).toNat

/-- Adds one to a counter, unless it is full. Also says if any counter was raised so far. -/
def raise {width : Nat} (state : Vector UInt64 width × Bool) (place : Slot width) :
    Vector UInt64 width × Bool :=
  let (table, added) := state
  if count table place < maxCount then
    (table.set place.word (table[place.word] + 1 <<< place.shift), true)
  else (table, added)

def halve (word : UInt64) : UInt64 := (word >>> 1) &&& halvingMask

/-- Halves every counter and starts a new period. -/
def reset (s : Sketch) : Sketch :=
  { s with table := s.table.map halve, additions := 0 }

def clear (s : Sketch) : Sketch :=
  { s with table := s.table.map fun _ => 0, additions := 0 }

/-- Raises the counters of `hash`. Also says if any of them was not full. -/
def raiseAll (logWidth : Nat) (hash : UInt64) (table : Vector UInt64 (Nat.pow 2 logWidth)) :
    Vector UInt64 (Nat.pow 2 logWidth) × Bool :=
  seeds.foldl (fun state seed => raise state (slot logWidth hash seed)) (table, false)

/-- Counts an increment, if it has raised a counter. Ends the period if that was one too many. -/
def settle {logWidth : Nat} (raised : Vector UInt64 (Nat.pow 2 logWidth) × Bool)
    (additions resetThreshold : UInt64) : Sketch :=
  let (table, added) := raised
  let additions := if added then additions + 1 else additions
  let s : Sketch := ⟨logWidth, table, additions, resetThreshold⟩
  if added && resetThreshold < additions then s.reset else s

def increment (s : Sketch) (hash : UInt64) : Sketch :=
  let ⟨logWidth, table, additions, resetThreshold⟩ := s
  settle (raiseAll logWidth hash table) additions resetThreshold

end Sketch

end LfuCache
