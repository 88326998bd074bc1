import LfuCache.Json.Number
import LfuCache.Json.Text

/-!
# Skipping a value

A field that nobody knows may hold any value, however deep. It is checked for its form, and
nothing of it is kept. The brackets that are open are a list, so depth costs no stack.
-/

namespace LfuCache.Json

open Text

inductive Bracket where
  | list
  | object
deriving DecidableEq, Repr

/-- What has to come next. -/
inductive Awaited where
  | value
  /-- Right after a bracket opens. -/
  | firstOrEnd
  | key
  /-- Right after a value. -/
  | commaOrEnd
deriving DecidableEq, Repr

/-- Skips a value that is no list and no object. -/
def skipScalar : List UInt8 → Except Fault (List UInt8)
  | [] => .error .unfinished
  | b :: rest =>
    match Char.ofNat b.toNat with
    | 'n' => expect [byte 'u', byte 'l', byte 'l'] rest
    | 't' => expect [byte 'r', byte 'u', byte 'e'] rest
    | 'f' => expect [byte 'a', byte 'l', byte 's', byte 'e'] rest
    | '"' => skipString 0 rest
    | _ => if b = byte '-' || isDigit b then skipNumber (b :: rest) else .error .malformed

/-- The bracket that a byte opens. -/
def opens? (b : UInt8) : Option Bracket :=
  if b = byte '[' then some .list
  else if b = 0x7B then some .object
  else none

/-- The byte that closes a bracket. -/
def Bracket.close : Bracket → UInt8
  | .list => byte ']'
  | .object => 0x7D

/-- What stands first between brackets, and after a comma. -/
def Bracket.item : Bracket → Awaited
  | .list => .value
  | .object => .key

/-- One step: reads what is awaited, and says what is awaited then. The brackets that are
open come first, the innermost one at the front. -/
def skipStep (awaited : Awaited) (open_ : List Bracket) (text : List UInt8) :
    Except Fault (Awaited × List Bracket × List UInt8) :=
  match skipSpace text with
  | [] => .error .unfinished
  | b :: rest =>
    match awaited, open_ with
    | .value, open_ =>
      match opens? b with
      | some bracket => .ok (.firstOrEnd, bracket :: open_, rest)
      | none => do
        let rest ← skipScalar (b :: rest)
        .ok (.commaOrEnd, open_, rest)
    | .key, open_ =>
      if b = byte '"' then do
        let rest ← skipString 0 rest
        let rest ← expectByte (byte ':') rest
        .ok (.value, open_, rest)
      else .error .malformed
    | .firstOrEnd, bracket :: outer =>
      if b = bracket.close then .ok (.commaOrEnd, outer, rest)
      else .ok (bracket.item, bracket :: outer, b :: rest)
    | .commaOrEnd, bracket :: outer =>
      if b = bracket.close then .ok (.commaOrEnd, outer, rest)
      else if b = byte ',' then .ok (bracket.item, bracket :: outer, rest)
      else .error .malformed
    | _, [] => .error .malformed

/-- Steps until the value has ended and no bracket is open. -/
def skipSteps : (steps : Nat) → Awaited → List Bracket → List UInt8 → Except Fault (List UInt8)
  | _, .commaOrEnd, [], text => .ok text
  | 0, _, _, _ => .error .unfinished
  | steps + 1, awaited, open_, text => do
    let (awaited, open_, text) ← skipStep awaited open_ text
    skipSteps steps awaited open_ text

/-- Two steps take one byte at least, for only the first item of a bracket takes none. So
it takes no more steps than this. -/
def enoughSteps (text : List UInt8) : Nat := 2 * text.length + 1

/-- Skips a value. The steps have to be enough for the text. -/
def skipValue (steps : Nat) (text : List UInt8) : Except Fault (List UInt8) :=
  skipSteps steps .value [] text

end LfuCache.Json
