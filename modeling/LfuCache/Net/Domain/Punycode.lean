/-!
# Punycode

A text with characters beyond ASCII is written in ASCII: first the characters that are ASCII
already, then a number for each of the others, in the order of their code points. The number
says how far it is from where one character was put to where the next one goes.
-/

namespace LfuCache.Net.Domain.Punycode

/-! ## Digits

The first digits are the letters. A digit below the threshold of its place is the last one
of its number.
-/

def radix : Nat := 36

def digit (n : Nat) : Char :=
  if n < 26 then .ofNat ('a'.toNat + n) else .ofNat ('0'.toNat + n - 26)

def digitValue? (c : Char) : Option Nat :=
  if 'a' ≤ c && c ≤ 'z' then some (c.toNat - 'a'.toNat)
  else if '0' ≤ c && c ≤ '9' then some (c.toNat - '0'.toNat + 26)
  else none

/-- Thresholds lie between 1 and 26, and grow by places. -/
def threshold (bias place : Nat) : Nat := max 1 (min 26 (radix * place - bias))

/-- The digits of a number from one place on, the lowest first. -/
def writeNumber (bias place n : Nat) : List Char :=
  let t := threshold bias place
  if n < t then [digit n]
  else digit (t + (n - t) % (radix - t)) :: writeNumber bias (place + 1) ((n - t) / (radix - t))
termination_by n
decreasing_by
  have : 1 ≤ threshold bias place := Nat.le_max_left ..
  exact Nat.lt_of_le_of_lt (Nat.div_le_self ..) (by omega)

/-! ## Bias

The bias makes numbers short that are like the one before.
-/

/-- How often a number is divided until it is small, and what is left of it. -/
def shrink (n : Nat) : Nat × Nat :=
  if 455 < n then
    let (times, rest) := shrink (n / 35)
    (times + 1, rest)
  else (0, n)
termination_by n
decreasing_by exact Nat.div_lt_self (by omega) (by omega)

def nextBias (distance places : Nat) (first : Bool) : Nat :=
  let scaled := if first then distance / 700 else distance / 2
  let (times, rest) := shrink (scaled + scaled / places)
  radix * times + radix * rest / (rest + 38)

/-! ## Places -/

/-- A code point, and a place in a text to put its character. The next ones are the places
behind it, then all places for the next code point. -/
structure Cursor where
  code : Nat := 0x80
  place : Nat := 0
  bias : Nat := 72
deriving DecidableEq, Repr

/-- Only before the first character is the cursor at the start of the text. -/
def Cursor.isFirst (c : Cursor) : Bool := c.place == 0

/-- Behind a character that has been put so far on, in a text that had so many places. -/
def Cursor.pass (c : Cursor) (code place distance places : Nat) : Cursor :=
  ⟨code, place + 1, nextBias distance places c.isFirst⟩

/-! ## Decoding -/

/-- What is known of a text, and of the number that is being read. -/
structure Decoder where
  text : List Char
  cursor : Cursor := {}
  number : Nat := 0
  weight : Nat := 1
  digits : Nat := 0
deriving DecidableEq, Repr

/-- Puts in the character to which a whole number leads. -/
def Decoder.put (d : Decoder) (distance : Nat) : Option Decoder :=
  let places := d.text.length + 1
  let goal := d.cursor.place + distance
  let code := d.cursor.code + goal / places
  let place := goal % places
  if code.isValidChar then
    some ⟨d.text.insertIdx place (.ofNat code), d.cursor.pass code place distance places, 0, 1, 0⟩
  else none

/-- Reads a digit. Numbers have to fit into 32 bits. -/
def Decoder.step (d : Decoder) (c : Char) : Option Decoder := do
  let value ← digitValue? c
  let number := d.number + value * d.weight
  let t := threshold d.cursor.bias (d.digits + 1)
  let weight := d.weight * (radix - t)
  guard (d.cursor.place + number < UInt32.size)
  if value < t then d.put number
  else
    guard (weight < UInt32.size)
    return { d with number, weight, digits := d.digits + 1 }

/-- The ASCII characters stand before the last hyphen, if there are any. -/
def splitHyphen (text : List Char) : List Char × List Char :=
  let digits := (text.reverse.takeWhile (· ≠ '-')).reverse
  match text.take (text.length - digits.length - 1) with
  | [] => ([], text)
  | front => (front, digits)

def decode? (text : List Char) : Option (List Char) := do
  let (front, digits) := splitHyphen text
  guard (front.all fun c => c.toNat < 0x80)
  let d ← digits.foldlM Decoder.step { text := front }
  guard (d.digits = 0)
  return d.text

/-! ## Encoding -/

/-- What is written so far, in a text of so many places. -/
structure Encoder where
  written : List Char
  places : Nat
  cursor : Cursor := {}

/-- Writes how far it is to a character. -/
def Encoder.put (e : Encoder) (code place : Nat) : Encoder :=
  let distance := (code - e.cursor.code) * e.places + place - e.cursor.place
  ⟨e.written ++ writeNumber e.cursor.bias 1 distance, e.places + 1,
    e.cursor.pass code place distance e.places⟩

/-- Each code point beyond ASCII, with its place among those that are not above it. -/
def marks : (before : List Nat) → List Nat → List (Nat × Nat)
  | _, [] => []
  | before, code :: rest =>
    let more := marks (code :: before) rest
    if code < 0x80 then more else (code, before.countP (· ≤ code)) :: more

def encode (text : List Char) : List Char :=
  let front := text.filter fun c => c.toNat < 0x80
  let start : Encoder := ⟨if front.isEmpty then [] else front ++ ['-'], front.length + 1, {}⟩
  let sorted := (marks [] (text.map Char.toNat)).mergeSort fun a b => a.1 ≤ b.1
  (sorted.foldl (fun e (code, place) => e.put code place) start).written

end LfuCache.Net.Domain.Punycode
