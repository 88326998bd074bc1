/-!
# Reading bytes

A scanner takes bytes from the front of a text and leaves the rest. If it cannot, it says
which of three things is wrong.
-/

namespace LfuCache.Json

/-- Why a text cannot be read. -/
inductive Fault where
  /-- It is not JSON. -/
  | malformed
  /-- It is JSON, but not what was asked for. -/
  | mismatch
  /-- It ends too early. -/
  | unfinished
deriving DecidableEq, Repr

abbrev Scan (α : Type) := List UInt8 → Except Fault (α × List UInt8)

/-- The byte of an ASCII character. -/
def byte (c : Char) : UInt8 := c.toUInt8

/-- Blank, tab and the two ends of line. -/
def isSpace (b : UInt8) : Bool := b == 0x20 || b == 0x09 || b == 0x0A || b == 0x0D

def skipSpace (text : List UInt8) : List UInt8 := text.dropWhile isSpace

/-- A text that has ended is unfinished. Any other text is malformed. -/
def faultAt (text : List UInt8) : Fault :=
  if text.isEmpty then .unfinished else .malformed

/-- Takes exactly this word. -/
def expect : List UInt8 → List UInt8 → Except Fault (List UInt8)
  | [], text => .ok text
  | w :: word, b :: text => if w = b then expect word text else .error .malformed
  | _ :: _, [] => .error .unfinished

/-- Takes this byte, after any space. -/
def expectByte (b : UInt8) (text : List UInt8) : Except Fault (List UInt8) :=
  expect [b] (skipSpace text)

end LfuCache.Json
