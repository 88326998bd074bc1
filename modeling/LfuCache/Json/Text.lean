import LfuCache.Json.Scan
import LfuCache.Text.Hex

/-!
# Strings in quotes

A quote, a backslash and a control character are written as escapes, and all else as it is.
Any character may be read from an escape.
-/

namespace LfuCache.Json

open Text

/-! ## Writing -/

def controlEscape (c : Char) : String :=
  let digits := Nat.toDigits 16 c.toNat
  "\\u" ++ String.ofList (List.replicate (4 - digits.length) '0' ++ digits)

def escape (c : Char) : String :=
  match c with
  | '"' => "\\\""
  | '\\' => "\\\\"
  | '\x08' => "\\b"
  | '\x0C' => "\\f"
  | '\n' => "\\n"
  | '\r' => "\\r"
  | '\t' => "\\t"
  | c => if c.toNat < 0x20 then controlEscape c else String.singleton c

def quote (s : String) : String := "\"" ++ String.join (s.toList.map escape) ++ "\""

/-! ## Escapes -/

/-- Four digits make one unit. If there are fewer than four bytes, the text ends too early. -/
def readUnit : List UInt8 → Except Fault (Nat × List UInt8)
  | a :: b :: c :: d :: rest =>
    match Hex.value? a, Hex.value? b, Hex.value? c, Hex.value? d with
    | some a, some b, some c, some d => .ok (((a * 16 + b) * 16 + c) * 16 + d, rest)
    | _, _, _, _ => .error .malformed
  | _ => .error .unfinished

def isLeading (unit : Nat) : Bool := 0xD800 ≤ unit && unit ≤ 0xDBFF

def isTrailing (unit : Nat) : Bool := 0xDC00 ≤ unit && unit ≤ 0xDFFF

/-- The character of a leading and a trailing unit. -/
def joinUnits (leading trailing : Nat) : Char :=
  Char.ofNat ((leading - 0xD800) * 0x400 + (trailing - 0xDC00) + 0x10000)

/-- The character after `\u`, and how many bytes name it. A leading unit needs a trailing
one in an escape of its own, and a trailing unit never comes first. -/
def readCharacter (text : List UInt8) : Except Fault (Char × Nat) := do
  let (unit, rest) ← readUnit text
  if isTrailing unit then .error .malformed
  else if isLeading unit then
    let rest ← expect [byte '\\', byte 'u'] rest
    let (second, _) ← readUnit rest
    if isTrailing second then .ok (joinUnits unit second, 10) else .error .malformed
  else .ok (Char.ofNat unit, 4)

/-- The character that one letter stands for. -/
def shortEscape? (b : UInt8) : Option Char :=
  match Char.ofNat b.toNat with
  | '"' => some '"'
  | '\\' => some '\\'
  | '/' => some '/'
  | 'b' => some '\x08'
  | 'f' => some '\x0C'
  | 'n' => some '\n'
  | 'r' => some '\r'
  | 't' => some '\t'
  | _ => none

/-- The character that an escape stands for, and how many bytes follow its backslash. -/
def readEscape : List UInt8 → Except Fault (Char × Nat)
  | [] => .error .unfinished
  | b :: rest =>
    if b = byte 'u' then
      match readCharacter rest with
      | .ok (c, n) => .ok (c, n + 1)
      | .error fault => .error fault
    else match shortEscape? b with
      | some c => .ok (c, 1)
      | none => .error .malformed

/-! ## Reading -/

/-- The bytes up to the closing quote. An escape is decoded at its backslash, and the bytes
that name it are then passed over. -/
def readBytes : (passOver : Nat) → (done : ByteArray) → Scan ByteArray
  | _, _, [] => .error .unfinished
  | n + 1, done, _ :: rest => readBytes n done rest
  | 0, done, b :: rest =>
    if b = byte '"' then .ok (done, rest)
    else if b = byte '\\' then
      match readEscape rest with
      | .ok (c, n) => readBytes n (done ++ (String.singleton c).toUTF8) rest
      | .error fault => .error fault
    else if b < 0x20 then .error .malformed
    else readBytes 0 (done.push b) rest

/-- A string, after its opening quote. Its bytes have to be UTF-8. -/
def readString : Scan String := fun text => do
  let (bytes, rest) ← readBytes 0 .empty text
  match String.fromUTF8? bytes with
  | some s => .ok (s, rest)
  | none => .error .malformed

/-! ## Skipping -/

/-- The bytes after the backslash of an escape that nobody reads. Any unit will do. -/
def escapeLength : List UInt8 → Except Fault Nat
  | [] => .error .unfinished
  | b :: rest =>
    if b = byte 'u' then
      match readUnit rest with
      | .ok _ => .ok 5
      | .error fault => .error fault
    else if (shortEscape? b).isSome then .ok 1
    else .error .malformed

/-- Skips a string, after its opening quote. Its bytes need not be UTF-8. -/
def skipString : (passOver : Nat) → List UInt8 → Except Fault (List UInt8)
  | _, [] => .error .unfinished
  | n + 1, _ :: rest => skipString n rest
  | 0, b :: rest =>
    if b = byte '"' then .ok rest
    else if b = byte '\\' then
      match escapeLength rest with
      | .ok n => skipString n rest
      | .error fault => .error fault
    else if b < 0x20 then .error .malformed
    else skipString 0 rest

end LfuCache.Json
