/-!
# Hexadecimal digits

A digit may be read in either case. It is written in upper case.
-/

namespace LfuCache.Text.Hex

/-- The value of a digit. -/
def value? (b : UInt8) : Option Nat :=
  if 0x30 ≤ b && b ≤ 0x39 then some (b.toNat - 0x30)
  else if 0x41 ≤ b && b ≤ 0x46 then some (b.toNat - 0x37)
  else if 0x61 ≤ b && b ≤ 0x66 then some (b.toNat - 0x57)
  else none

/-- The digit of a value below sixteen. -/
def digit (n : Nat) : UInt8 :=
  if n < 10 then n.toUInt8 + 0x30 else n.toUInt8 + 0x37

end LfuCache.Text.Hex
