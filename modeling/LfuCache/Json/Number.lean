import LfuCache.Decimal.Layout
import LfuCache.Json.Scan
import LfuCache.Text.Ascii

/-!
# Numbers

A number has a sign, digits, a fraction and an exponent. Without any but digits, and up to
64 bits, it is whole. Every other number is a double. It comes from at most 64 bits of
digits and one power of ten, so it may be one bit off.
-/

namespace LfuCache.Json

open Text

inductive Number where
  | whole (n : Nat)
  | real (x : Double)
deriving DecidableEq

/-! ## Writing -/

/-- A whole number ends in `.0`. A number below `1e-5` or from `1e16` has an exponent. -/
def numberLayout : Decimal.Layout where
  isPlain place := decide (-5 ≤ place ∧ place ≤ 15)
  pointZero := true
  tie := .even

/-! ## Literals -/

/-- The parts of a number as it is written. -/
structure Literal where
  negative : Bool
  digits : List Nat
  fraction : List Nat
  exponent : Option Int
deriving DecidableEq, Repr

/-- All digits at the front. -/
def takeDigits (text : List UInt8) : List Nat × List UInt8 :=
  ((text.takeWhile isDigit).map fun b => b.toNat - 0x30, text.dropWhile isDigit)

/-- One digit or more. -/
def readDigits : Scan (List Nat) := fun text =>
  match takeDigits text with
  | ([], rest) => .error (faultAt rest)
  | (digits, rest) => .ok (digits, rest)

/-- The digits before the point. A zero has none after it. -/
def readInteger : Scan (List Nat) := fun text => do
  let (digits, rest) ← readDigits text
  match digits with
  | 0 :: _ :: _ => .error .malformed
  | digits => .ok (digits, rest)

def readFraction : Scan (List Nat) := fun text =>
  match text with
  | 0x2E :: rest => readDigits rest
  | text => .ok ([], text)

/-- A sign may stand before the digits of an exponent. -/
def readSign (text : List UInt8) : Bool × List UInt8 :=
  match text with
  | 0x2B :: rest => (false, rest)
  | 0x2D :: rest => (true, rest)
  | text => (false, text)

def readExponent : Scan (Option Int) := fun text =>
  match text with
  | b :: rest =>
    if b = byte 'e' || b = byte 'E' then do
      let (negative, rest) := readSign rest
      let (digits, rest) ← readDigits rest
      let n : Int := ofDigits 10 digits
      .ok (some (if negative then -n else n), rest)
    else .ok (none, text)
  | [] => .ok (none, [])

def readLiteral : Scan Literal := fun text => do
  let (negative, text) := match text with
    | 0x2D :: rest => (true, rest)
    | text => (false, text)
  let (digits, text) ← readInteger text
  let (fraction, text) ← readFraction text
  let (exponent, text) ← readExponent text
  .ok (⟨negative, digits, fraction, exponent⟩, text)

/-! ## Values -/

/-- Adds digits while the number fits in 64 bits. Also gives the digits that were left. -/
def collect : Nat → List Nat → Nat × List Nat
  | n, [] => (n, [])
  | n, d :: digits =>
    if n * 10 + d < UInt64.size then collect (n * 10 + d) digits else (n, d :: digits)

def powerOfTen (n : Nat) : Float := Float.ofScientific 1 false n

def largestPower : Nat := 308

/-- Divides by a power of ten, in steps if there is no such power. After three full steps
nothing is left of any 64 bits. -/
def divide : (steps : Nat) → Float → Nat → Float
  | 0, x, _ => x
  | steps + 1, x, n =>
    if n ≤ largestPower then x / powerOfTen n
    else divide steps (x / powerOfTen largestPower) (n - largestPower)

/-- Digits times a power of ten, or none if that is too large. -/
def scale (digits : Nat) (exponent : Int) : Option Double :=
  let x := (UInt64.ofNat digits).toFloat
  if exponent < 0 then some (.ofFloat (divide 4 x (-exponent).toNat))
  else if exponent ≤ largestPower then
    let y := Double.ofFloat (x * powerOfTen exponent.toNat)
    if y.isInfinite then none else some y
  else if digits = 0 then some (.ofFloat x)
  else none

def Literal.isWhole (l : Literal) : Bool :=
  !l.negative && l.fraction.isEmpty && l.exponent.isNone

/-- Digits that do not fit are dropped. Before the point, they leave their place. -/
def Literal.value (l : Literal) : Except Fault Number :=
  let (n, dropped) := collect 0 l.digits
  if l.isWhole && dropped.isEmpty then .ok (.whole n)
  else
    let (m, lost) := collect n l.fraction
    let places : Int := dropped.length - (l.fraction.length - lost.length : Nat)
    match scale m (places + l.exponent.getD 0) with
    | some x => .ok (.real (if l.negative then x.negate else x))
    | none => .error .malformed

def readNumber : Scan Number := fun text => do
  let (literal, rest) ← readLiteral text
  .ok (← literal.value, rest)

/-- A whole number as a double. -/
def Number.toDouble : Number → Double
  | .whole n => .ofFloat (UInt64.ofNat n).toFloat
  | .real x => x

/-! ## Skipping -/

/-- Skips a number that nobody reads. No end of the text is too early for it: a missing
digit is a missing digit. -/
def skipNumber (text : List UInt8) : Except Fault (List UInt8) :=
  match readLiteral text with
  | .ok (_, rest) => .ok rest
  | .error _ => .error .malformed

end LfuCache.Json
