import LfuCache.Text.Ascii

/-!
# Text from any bytes

Bytes that are no UTF-8 are replaced. A sequence that breaks off is replaced as a whole, and
what breaks it is read anew.
-/

namespace LfuCache.Text

/-- The least and the greatest second byte of a sequence, and how many bytes follow it. -/
structure Opening where
  least : UInt8
  greatest : UInt8
  more : Nat

/-- What may follow the first byte of a sequence of two bytes or more. -/
def opening? (b : UInt8) : Option Opening :=
  if b < 0xC2 then none
  else if b ≤ 0xDF then some ⟨0x80, 0xBF, 0⟩
  else if b = 0xE0 then some ⟨0xA0, 0xBF, 1⟩
  else if b = 0xED then some ⟨0x80, 0x9F, 1⟩
  else if b ≤ 0xEF then some ⟨0x80, 0xBF, 1⟩
  else if b = 0xF0 then some ⟨0x90, 0xBF, 2⟩
  else if b ≤ 0xF3 then some ⟨0x80, 0xBF, 2⟩
  else if b = 0xF4 then some ⟨0x80, 0x8F, 2⟩
  else none

def isTail (b : UInt8) : Bool := 0x80 ≤ b && b ≤ 0xBF

/-- How many bytes of the text belong to the sequence that its first byte opens, and if they
are all of it. -/
def sequenceLength (o : Opening) (rest : List UInt8) : Nat × Bool :=
  match rest with
  | b :: rest =>
    if o.least ≤ b && b ≤ o.greatest then
      let tails := (rest.take o.more).takeWhile isTail
      (tails.length + 2, tails.length == o.more)
    else (1, false)
  | [] => (1, false)

def replacement : List UInt8 := [0xEF, 0xBF, 0xBD]

/-- Keeps sequences that are whole and replaces the others. The bytes of a sequence are
judged at its first byte, and the rest of them is then passed over. -/
def mend : (passOver : Nat) → (keep : Bool) → List UInt8 → List UInt8
  | _, _, [] => []
  | n + 1, keep, b :: rest => if keep then b :: mend n keep rest else mend n keep rest
  | 0, _, b :: rest =>
    if b < 0x80 then b :: mend 0 true rest
    else match opening? b with
      | none => replacement ++ mend 0 true rest
      | some o =>
        let (length, whole) := sequenceLength o rest
        if whole then b :: mend (length - 1) true rest
        else replacement ++ mend (length - 1) false rest

def ofBytes (bytes : List UInt8) : String :=
  (string? (mend 0 true bytes)).getD ""

end LfuCache.Text
