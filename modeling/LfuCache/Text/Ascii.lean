/-!
# Text and its bytes

Text is read as bytes. The bytes below 0x80 are characters, and the rules here are about
those alone.
-/

namespace LfuCache.Text

def bytes (s : String) : List UInt8 := s.toUTF8.toList

/-- The text of bytes that are UTF-8. -/
def string? (bytes : List UInt8) : Option String := String.fromUTF8? ⟨bytes.toArray⟩

def isUtf8 (bytes : List UInt8) : Bool := ByteArray.validateUTF8 ⟨bytes.toArray⟩

def isDigit (b : UInt8) : Bool := 0x30 ≤ b && b ≤ 0x39

def isAlpha (b : UInt8) : Bool := (0x41 ≤ b && b ≤ 0x5A) || (0x61 ≤ b && b ≤ 0x7A)

/-- One of these characters. -/
def isOneOf (characters : String) (b : UInt8) : Bool := (bytes characters).contains b

def lower (b : UInt8) : UInt8 := if 0x41 ≤ b && b ≤ 0x5A then b + 0x20 else b

/-- The number that digits make, the first one on top. -/
def ofDigits (radix : Nat) (digits : List Nat) : Nat :=
  digits.foldl (fun n d => radix * n + d) 0

/-- The number that decimal digits make. -/
def decimal (digits : List UInt8) : Nat := ofDigits 10 (digits.map fun b => b.toNat - 0x30)

end LfuCache.Text
