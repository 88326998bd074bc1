import LfuCache.Text.Ascii
import LfuCache.Text.Hex
import Std.Data.TreeMap

/-!
# Tables of characters

A table has a value for each of some spans of code points. It is written as words with
blanks between them. Each word is a span, in hexadecimal digits, and what may follow it.
All tables are those of Unicode 17.
-/

namespace LfuCache.Unicode

open Text

structure Span (α : Type) where
  first : Nat
  last : Nat
  value : α

/-- Spans by their first code point. They do not overlap. -/
abbrev Table (α : Type) := Std.TreeMap Nat (Span α)

namespace Table

/-! ## Reading -/

def words (text : String) : List (List UInt8) :=
  ((bytes text).splitOnP fun b => b ≤ 0x20).filter fun word => !word.isEmpty

/-- The number that hexadecimal digits make. -/
def code? (digits : List UInt8) : Option Nat :=
  if digits.isEmpty then none else (digits.mapM Hex.value?).map (ofDigits 16)

def char? (digits : List UInt8) : Option Char := (code? digits).map Char.ofNat

/-- One code point, or two with a hyphen between them. -/
def ends? (word : List UInt8) : Option (Nat × Nat) :=
  match word.splitOn 0x2D with
  | [first] => (code? first).map fun n => (n, n)
  | [first, last] => do return (← code? first, ← code? last)
  | _ => none

/-- A span of which all is said by where it stands. -/
def span? {α : Type} (value : α) (word : List UInt8) : Option (Span α) :=
  (ends? word).map fun (first, last) => ⟨first, last, value⟩

def spans {α : Type} (value : α) (text : String) : List (Span α) :=
  (words text).filterMap (span? value)

def ofSpans {α : Type} (spans : List (Span α)) : Table α :=
  spans.foldl (fun table span => table.insert span.first span) ∅

/-! ## Looking up -/

/-- The span that a character is in. -/
def find? {α : Type} (table : Table α) (c : Char) : Option (Span α) :=
  match table.getEntryLE? c.toNat with
  | some (_, span) => if c.toNat ≤ span.last then some span else none
  | none => none

def value? {α : Type} (table : Table α) (c : Char) : Option α := (table.find? c).map (·.value)

end Table

end LfuCache.Unicode
