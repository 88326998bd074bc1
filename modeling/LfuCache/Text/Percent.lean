import LfuCache.Text.Hex

/-!
# Percent encoding

A byte that may not stand in a target is written as `%` and two digits.
-/

namespace LfuCache.Text.Percent

def encodeByte (b : UInt8) : List UInt8 :=
  [0x25, Hex.digit (b.toNat / 16), Hex.digit (b.toNat % 16)]

/-- Encodes the bytes that are not safe, and leaves the others. -/
def encode (isSafe : UInt8 → Bool) (bytes : List UInt8) : List UInt8 :=
  bytes.flatMap fun b => if isSafe b then [b] else encodeByte b

/-- A `%` without two digits after it stands for itself. -/
def decode : List UInt8 → List UInt8
  | [] => []
  | [a] => [a]
  | [a, b] => [a, b]
  | a :: b :: c :: rest =>
    if a = 0x25 then
      match Hex.value? b, Hex.value? c with
      | some high, some low => (high * 16 + low).toUInt8 :: decode rest
      | _, _ => a :: decode (b :: c :: rest)
    else a :: decode (b :: c :: rest)

end LfuCache.Text.Percent
