import LfuCache.Decimal.Shortest

/-!
# How a double is written

The digits are always the fewest that read back. A layout says where they go.
-/

namespace LfuCache.Decimal

structure Layout where
  /-- Places of the leading digit that are written without an exponent. -/
  isPlain : Int → Bool
  /-- A whole number ends in `.0`. -/
  pointZero : Bool
  /-- What happens to a value between two texts that are as near to it. -/
  tie : Tie

def zeros (n : Nat) : String := String.ofList (List.replicate n '0')

/-- The digits without zeros at the end. -/
def strip : Nat → Scientific → Scientific
  | 0, d => d
  | n + 1, d => if d.digits % 10 = 0 then strip n ⟨d.digits / 10, d.exponent + 1⟩ else d

/-- Digits around a point that stands after the first `point` of them. -/
def Layout.plain (layout : Layout) (digits : List Char) (point : Int) : String :=
  if point ≤ 0 then "0." ++ zeros (-point).toNat ++ String.ofList digits
  else
    let n := point.toNat
    if digits.length ≤ n then
      String.ofList digits ++ zeros (n - digits.length) ++ (if layout.pointZero then ".0" else "")
    else String.ofList (digits.take n) ++ "." ++ String.ofList (digits.drop n)

/-- One digit, the others behind a point, and the place of the first. -/
def withExponent (digits : List Char) (leading : Int) : String :=
  let tail := if digits.length ≤ 1 then "" else "." ++ String.ofList (digits.drop 1)
  String.ofList (digits.take 1) ++ tail ++ "e" ++ toString leading

def Layout.scientific (layout : Layout) (d : Scientific) : String :=
  if d.digits = 0 then if layout.pointZero then "0.0" else "0"
  else
    let d := strip 17 d
    let digits := Nat.toDigits 10 d.digits
    let leading := d.exponent + digits.length - 1
    if layout.isPlain leading then layout.plain digits (leading + 1)
    else withExponent digits leading

def Layout.render (layout : Layout) (x : Double) : String :=
  if x.isNaN then "NaN"
  else
    let sign := if x.isNegative then "-" else ""
    if x.isInfinite then sign ++ "inf"
    else sign ++ layout.scientific ((Binary.ofMagnitude x.magnitude).shortest layout.tie)

end LfuCache.Decimal
