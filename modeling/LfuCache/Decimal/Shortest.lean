import LfuCache.Decimal.Double

/-!
# The fewest digits that read back

A double stands for all numbers that are nearer to it than to its neighbours. Its digits
are the fewest that name one of those numbers, and of these the nearest to it.
Everything is exact arithmetic on natural numbers.
-/

namespace LfuCache.Decimal

/-- The number `digits * 10 ^ exponent`. -/
structure Scientific where
  digits : Nat
  exponent : Int
deriving DecidableEq, Repr

/-- The number `mantissa * 2 ^ exponent`. The gap below it may be half of the gap above. -/
structure Binary where
  mantissa : Nat
  exponent : Int
  narrowBelow : Bool

def Binary.ofMagnitude (bits : UInt64) : Binary :=
  let exponent := (bits >>> 52).toNat
  let fraction := (bits &&& 0xFFFFFFFFFFFFF).toNat
  if exponent = 0 then ⟨fraction, -1074, false⟩
  else ⟨0x10000000000000 + fraction, exponent - 1075, fraction = 0 ∧ 1 < exponent⟩

/-! ## The interval -/

/-- Quarters of the last place, the value in the middle. The ends belong to it if the
mantissa is even. -/
structure Interval where
  low : Nat
  middle : Nat
  high : Nat
  closed : Bool

def Binary.interval (x : Binary) : Interval where
  low := 4 * x.mantissa - (if x.narrowBelow then 1 else 2)
  middle := 4 * x.mantissa
  high := 4 * x.mantissa + 2
  closed := x.mantissa % 2 = 0

/-- The interval holds the fraction `num / den`, with all ends times `scale`. -/
def Interval.holds (i : Interval) (scale num : Nat) : Bool :=
  let low := i.low * scale
  let high := i.high * scale
  decide (low < num ∧ num < high) || i.closed && (num == low || num == high)

/-! ## The search -/

def powerUp (base : Nat) (e : Int) : Nat := Nat.pow base e.toNat

def powerDown (base : Nat) (e : Int) : Nat := Nat.pow base (-e).toNat

/-- Which of two numbers wins that are as near. -/
inductive Tie where
  | upper
  /-- The one with an even last digit. -/
  | even
deriving DecidableEq, Repr

/-- Says if the lower of two neighbours wins against a value between them. Both are counted
in units, of which the value has so many halves. -/
def Tie.takesLower (tie : Tie) (below halves unit : Nat) : Bool :=
  let middle := (2 * below + 1) * unit
  decide (halves < middle) || (tie = .even && halves = middle && below % 2 = 0)

/-- The multiple of `10 ^ place` that reads back. The value has two neighbours of this
kind. The nearer one wins. -/
def atPlace (tie : Tie) (x : Binary) (place : Int) : Option Scientific :=
  let i := x.interval
  let scale := powerUp 2 (x.exponent - 2) * powerDown 10 place
  let den := powerDown 2 (x.exponent - 2) * powerUp 10 place
  let below := i.middle * scale / den
  let above := below + 1
  match i.holds scale (below * den), i.holds scale (above * den) with
  | true, false => some ⟨below, place⟩
  | false, true => some ⟨above, place⟩
  | false, false => none
  | true, true =>
    if tie.takesLower below (2 * (i.middle * scale)) den then some ⟨below, place⟩
    else some ⟨above, place⟩

def Binary.below (x : Binary) (k : Int) : Bool :=
  decide (x.mantissa * powerUp 2 x.exponent * powerDown 10 k <
    powerUp 10 k * powerDown 2 x.exponent)

/-- The place of the leading digit, plus one. The binary logarithm gives a start that is
at most two too low. -/
def Binary.leadingPlace (x : Binary) : Int :=
  let start := (x.mantissa.log2 + x.exponent) * 30103 / 100000 - 1
  ((List.range 5).map fun i : Nat => start + i).find? x.below |>.getD (start + 5)

def Binary.exactly (x : Binary) : Scientific :=
  if 0 ≤ x.exponent then ⟨x.mantissa * powerUp 2 x.exponent, 0⟩
  else ⟨x.mantissa * powerDown 5 x.exponent, x.exponent⟩

/-- Tries one digit, then two, up to seventeen. Those always suffice. -/
def Binary.shortest (tie : Tie) (x : Binary) : Scientific :=
  let top := x.leadingPlace
  ((List.range 17).findSome? fun n : Nat => atPlace tie x (top - (n + 1))).getD x.exactly

end LfuCache.Decimal
