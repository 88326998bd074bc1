import LfuCache.Net.Domain.Label
import LfuCache.Text.Ascii

/-!
# Domains

A domain is a name of labels with dots between them. Its characters may be any that are not
refused. It is written in ASCII, in small letters.
-/

namespace LfuCache.Net.Domain

open Unicode

/-! ## Characters -/

/-- The characters that take the place of one, if it is not refused. -/
def settleChar? (c : Char) : Option (List Char) :=
  if isRefused c then none else some ((replacement? c).getD [c])

/-- Replaces characters, and composes what they make. -/
def settle? (text : List Char) : Option (List Char) :=
  (text.mapM settleChar?).map fun parts => compose parts.flatten

/-! ## Directions

If any label goes from right to left, all labels have to be clear about where they go.
-/

def turns (text : List Char) : Bool :=
  text.any fun c => Direction.ofChar c == .right || Direction.ofChar c == .arabicDigit

def inLeft (d : Direction) : Bool :=
  d == .left || d == .europeanDigit || d == .neutral || d == .mark

/-- Digits of two kinds do not go together. -/
def inRight (all : List Direction) : Bool :=
  !all.contains .left && !(all.contains .europeanDigit && all.contains .arabicDigit)

def isClear (text : List Char) : Bool :=
  let all := ((text.map Direction.ofChar).reverse.dropWhile (· == .mark)).reverse
  match text.head?.map Direction.ofChar with
  | none => true
  | some .left =>
    all.all inLeft && (all.getLast? == some .left || all.getLast? == some .europeanDigit)
  | some .right =>
    inRight all && (all.getLast? == some .right || all.getLast? == some .europeanDigit ||
      all.getLast? == some .arabicDigit)
  | some _ => false

/-! ## Whole domains -/

def join (labels : List (List Char)) : List Char := List.intercalate ['.'] labels

/-- How a domain is written in ASCII. -/
def toAscii? (text : List UInt8) : Option (List UInt8) := do
  let text ← Text.string? text
  let settled ← settle? text.toList
  let labels ← (settled.splitOn '.').mapM Label.ofText?
  guard (!labels.any (turns ·.text) || labels.all (isClear ·.text))
  return (join (labels.map (·.written))).map fun c => c.toNat.toUInt8

end LfuCache.Net.Domain
