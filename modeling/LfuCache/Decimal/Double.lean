/-!
# Doubles

A double is its 64 bits: a sign, eleven bits of exponent, 52 bits of fraction.
Bits say more than a number, for a NaN has a sign too.
-/

namespace LfuCache

structure Double where
  bits : UInt64
deriving DecidableEq, Repr

namespace Double

def signBit : UInt64 := 0x8000000000000000

def one : Double := ⟨0x3FF0000000000000⟩

def infinity : Double := ⟨0x7FF0000000000000⟩

def nan : Double := ⟨0x7FF8000000000000⟩

def negate (x : Double) : Double := ⟨x.bits ^^^ signBit⟩

def toFloat (x : Double) : Float := Float.ofBits x.bits

def ofFloat (x : Float) : Double := ⟨x.toBits⟩

def isNegative (x : Double) : Bool := x.bits &&& signBit != 0

/-- The bits without the sign. They order the doubles that are not negative. -/
def magnitude (x : Double) : UInt64 := x.bits &&& 0x7FFFFFFFFFFFFFFF

def isNaN (x : Double) : Bool := decide (infinity.bits < x.magnitude)

def isInfinite (x : Double) : Bool := x.magnitude == infinity.bits

/-- Strictly between zero and one. No NaN is. -/
def isFraction (x : Double) : Bool := decide (0 < x.bits) && decide (x.bits < one.bits)

end Double

end LfuCache
