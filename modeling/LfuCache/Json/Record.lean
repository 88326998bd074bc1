import LfuCache.Json.Skip

/-!
# Records

A record is an object whose fields are known. Its fields may come in any order, and others
are skipped. It may also be written as a list of its fields in order. A field that may be
missing is not written when it holds nothing.
-/

namespace LfuCache.Json

open Text

/-! ## Fields -/

inductive Kind where
  | text
  | flag
  /-- Up to 64 bits. -/
  | whole
  /-- The same, or nothing. -/
  | maybeWhole
  | real
deriving DecidableEq, Repr

structure Field where
  name : String
  kind : Kind
deriving DecidableEq, Repr

/-- What a field of this kind holds. -/
abbrev Kind.Value : Kind → Type
  | .text => String
  | .flag => Bool
  | .whole => Nat
  | .maybeWhole => Option Nat
  | .real => Double

/-- What stands for a field that is missing. -/
def Kind.missing? : (kind : Kind) → Option kind.Value
  | .text => none
  | .flag => none
  | .whole => none
  | .maybeWhole => some none
  | .real => none

/-- One value for each field. -/
abbrev Record : List Field → Type
  | [] => Unit
  | f :: fields => f.kind.Value × Record fields

/-- The fields that were read so far. -/
abbrev Partial : List Field → Type
  | [] => Unit
  | f :: fields => Option f.kind.Value × Partial fields

/-! ## Scalars -/

inductive Scalar where
  | text (s : String)
  | flag (b : Bool)
  | whole (n : Nat)
  | real (x : Double)
deriving DecidableEq

/-- No number stands for infinity. -/
def Scalar.write : Scalar → String
  | .text s => quote s
  | .flag b => if b then "true" else "false"
  | .whole n => toString n
  | .real x => if x.isNaN || x.isInfinite then "null" else numberLayout.render x

def Kind.scalar? : (kind : Kind) → kind.Value → Option Scalar
  | .text, s => some (.text s)
  | .flag, b => some (.flag b)
  | .whole, n => some (.whole n)
  | .maybeWhole, n => n.map .whole
  | .real, x => some (.real x)

/-- Reads a scalar of another kind than was asked for. Its form still counts. -/
def refuse {α : Type} (text : List UInt8) : Except Fault α :=
  match text with
  | [] => .error .unfinished
  | b :: rest =>
    if (opens? b).isSome then .error .mismatch
    else if b = byte '"' then
      match readString rest with
      | .ok _ => .error .mismatch
      | .error fault => .error fault
    else if b = byte '-' || isDigit b then
      match readNumber text with
      | .ok _ => .error .mismatch
      | .error fault => .error fault
    else match skipScalar text with
      | .ok _ => .error .mismatch
      | .error fault => .error fault

def startsNumber (text : List UInt8) : Bool :=
  match text with
  | b :: _ => b == byte '-' || isDigit b
  | [] => false

def readText : Scan String := fun text =>
  match text with
  | b :: rest => if b = byte '"' then readString rest else refuse text
  | [] => refuse []

def readFlag : Scan Bool := fun text =>
  match text with
  | b :: rest =>
    if b = byte 't' then do .ok (true, ← expect [byte 'r', byte 'u', byte 'e'] rest)
    else if b = byte 'f' then
      do .ok (false, ← expect [byte 'a', byte 'l', byte 's', byte 'e'] rest)
    else refuse text
  | [] => refuse []

def readWhole : Scan Nat := fun text =>
  if startsNumber text then do
    match ← readNumber text with
    | (.whole n, rest) => .ok (n, rest)
    | (.real _, _) => .error .mismatch
  else refuse text

def readMaybeWhole : Scan (Option Nat) := fun text =>
  match text with
  | b :: rest =>
    if b = byte 'n' then do .ok (none, ← expect [byte 'u', byte 'l', byte 'l'] rest)
    else do
      let (n, rest) ← readWhole text
      .ok (some n, rest)
  | [] => .error .unfinished

def readReal : Scan Double := fun text =>
  if startsNumber text then do
    let (n, rest) ← readNumber text
    .ok (n.toDouble, rest)
  else refuse text

/-- Reads a value of this kind, after any space. -/
def Kind.read (kind : Kind) : Scan kind.Value := fun text =>
  let text := skipSpace text
  match kind with
  | .text => readText text
  | .flag => readFlag text
  | .whole => readWhole text
  | .maybeWhole => readMaybeWhole text
  | .real => readReal text

/-! ## Reading -/

namespace Partial

def none : (fields : List Field) → Partial fields
  | [] => ()
  | _ :: fields => (Option.none, none fields)

/-- Every field, if those that are missing may be. -/
def complete : {fields : List Field} → Partial fields → Except Fault (Record fields)
  | [], () => .ok ()
  | f :: _, (slot, slots) =>
    match slot.or f.kind.missing? with
    | some value => do .ok (value, ← complete slots)
    | Option.none => .error .mismatch

/-- Reads the value of the field with this name. It must not have come before. A value
whose name is not known is skipped. -/
def readField (steps : Nat) (name : String) :
    {fields : List Field} → Partial fields → Scan (Partial fields)
  | [], () => fun text => do
    let rest ← skipValue steps (← expectByte (byte ':') text)
    .ok ((), rest)
  | f :: _, (slot, slots) => fun text =>
    if f.name = name then
      match slot with
      | some _ => .error .mismatch
      | Option.none => do
        let (value, rest) ← f.kind.read (← expectByte (byte ':') text)
        .ok ((some value, slots), rest)
    else do
      let (slots, rest) ← slots.readField steps name text
      .ok ((slot, slots), rest)

end Partial

/-- The name of a field, after any space. -/
def readName : Scan String := fun text =>
  match skipSpace text with
  | [] => .error .unfinished
  | b :: rest => if b = byte '"' then readString rest else .error .malformed

/-- The fields of an object, up to its closing bracket. The steps have to be enough for the
text. A field takes more bytes than one, so they stay enough for what follows it. -/
def readFields {fields : List Field} : (steps : Nat) → (first : Bool) → Partial fields →
    Scan (Partial fields)
  | 0, _, _, _ => .error .unfinished
  | steps + 1, first, slots, text =>
    match skipSpace text with
    | [] => .error .unfinished
    | b :: rest =>
      if b = Bracket.object.close then .ok (slots, rest)
      else do
        let (name, rest) ← if first then readName (b :: rest)
          else if b = byte ',' then readName rest
          else .error .malformed
        let (slots, rest) ← slots.readField steps name rest
        readFields steps false slots rest

/-- The fields of a list, in order. The list may end before fields that may be missing. -/
def readItems : (fields : List Field) → (first : Bool) → Scan (Record fields)
  | [], _, text => do .ok ((), ← expectByte Bracket.list.close text)
  | f :: fields, first, text =>
    match skipSpace text with
    | [] => .error .unfinished
    | b :: rest =>
      if b = Bracket.list.close then
        match f.kind.missing? with
        | some value => do
          let (values, rest) ← readItems fields first (b :: rest)
          .ok ((value, values), rest)
        | none => .error .mismatch
      else do
        let text ← if first then .ok (b :: rest)
          else if b = byte ',' then .ok rest
          else .error .malformed
        let text := skipSpace text
        if !first && text.head? == some Bracket.list.close then .error .malformed
        else
          let (value, text) ← f.kind.read text
          let (values, text) ← readItems fields false text
          .ok ((value, values), text)

/-- A record at the front of a text. -/
def readRecord (fields : List Field) : Scan (Record fields) := fun text =>
  match skipSpace text with
  | [] => .error .unfinished
  | b :: rest =>
    match opens? b with
    | some .object => do
      let (slots, rest) ← readFields (enoughSteps rest) true (.none fields) rest
      .ok (← slots.complete, rest)
    | some .list => readItems fields true rest
    | none => refuse (b :: rest)

/-- A text that holds a record and nothing else. -/
def readWholeRecord (fields : List Field) (text : List UInt8) : Except Fault (Record fields) := do
  let (record, rest) ← readRecord fields text
  if (skipSpace rest).isEmpty then .ok record else .error .malformed

/-! ## Writing -/

/-- The fields that are written, in order. -/
def Record.members : {fields : List Field} → Record fields → List (String × Scalar)
  | [], () => []
  | f :: _, (value, values) =>
    ((f.kind.scalar? value).map fun s => (f.name, s)).toList ++ members values

/-- On one line, without space. -/
def writeCompact (members : List (String × Scalar)) : String :=
  "\x7b" ++ ",".intercalate (members.map fun (name, s) => quote name ++ ":" ++ s.write) ++ "\x7d"

/-- A line for each field, set in by two blanks. -/
def writePretty (members : List (String × Scalar)) : String :=
  if members.isEmpty then "\x7b\x7d"
  else
    let lines := members.map fun (name, s) => "  " ++ quote name ++ ": " ++ s.write
    "\x7b\n" ++ ",\n".intercalate lines ++ "\n\x7d"

end LfuCache.Json
