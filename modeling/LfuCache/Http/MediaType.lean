import LfuCache.Text.Ascii

/-!
# Media types

A media type is a type and a subtype, which may end in a suffix. Parameters may follow.
They are checked for their form and not kept. Case does not matter.
-/

namespace LfuCache.Http

open Text

structure MediaType where
  type : List UInt8
  subtype : List UInt8
  suffix : Option (List UInt8)
deriving DecidableEq, Repr

namespace MediaType

/-! ## Tokens -/

def isTokenByte (b : UInt8) : Bool :=
  isDigit b || isAlpha b || isOneOf "!#$%&'*+-.^_`|~" b

def takeToken (text : List UInt8) : List UInt8 × List UInt8 :=
  (text.takeWhile isTokenByte, text.dropWhile isTokenByte)

/-! ## Parameters -/

def skipBlanks (text : List UInt8) : List UInt8 := text.dropWhile (· = 0x20)

/-- A byte between quotes. -/
def isQuotedByte (b : UInt8) : Bool := 0x20 ≤ b && b < 0x7F

/-- The text after a closing quote. The first byte after the opening quote never closes. -/
def afterQuoted? : List UInt8 → Option (List UInt8)
  | [] => none
  | first :: text =>
    if !isQuotedByte first then none
    else
      let inner := text.takeWhile fun b => isQuotedByte b && b != 0x22
      match text.drop inner.length with
      | 0x22 :: rest => some rest
      | _ => none

/-- The text after the value of a parameter and the semicolon behind it. A value that is
not quoted may be empty at the end only. -/
def afterValue? (text : List UInt8) : Option (List UInt8) :=
  match text with
  | 0x22 :: text =>
    match (afterQuoted? text).map skipBlanks with
    | some [] => some []
    | some (0x3B :: rest) => some rest
    | _ => none
  | text =>
    match takeToken text with
    | (_, []) => some []
    | (_ :: _, 0x3B :: rest) => some rest
    | _ => none

/-- Parameters in a row, with blanks before each of them. Each takes some bytes, so there
are no more of them than bytes. -/
def areParameters : (most : Nat) → List UInt8 → Bool
  | 0, text => text.isEmpty
  | most + 1, text =>
    match skipBlanks text with
    | [] => true
    | text =>
      match takeToken text with
      | (_ :: _, 0x3D :: rest) =>
        match afterValue? rest with
        | some rest => areParameters most rest
        | none => false
      | _ => false

/-! ## Media types -/

/-- The last plus sign that is not the first byte divides a subtype from its suffix. -/
def splitSuffix (text : List UInt8) : List UInt8 × Option (List UInt8) :=
  let suffix := (text.reverse.takeWhile (· ≠ 0x2B)).reverse
  let rest := text.take (text.length - suffix.length - 1)
  if rest.isEmpty then (text, none) else (rest, some suffix)

def ofBytes? (text : List UInt8) : Option MediaType :=
  match takeToken text with
  | (type@(_ :: _), 0x2F :: rest) =>
    let (name, rest) := takeToken rest
    let (subtype, suffix) := splitSuffix name
    let valid := match rest with
      | [] => true
      | 0x3B :: parameters => !name.isEmpty && areParameters (parameters.length + 1) parameters
      | _ => false
    if valid then
      some ⟨type.map lower, subtype.map lower, suffix.map (·.map lower)⟩
    else none
  | _ => none

/-- JSON itself, or a format that is built on it. -/
def isJson (m : MediaType) : Bool :=
  let json := bytes "json"
  m.type == bytes "application" && (m.subtype == json || m.suffix == some json)

end MediaType

end LfuCache.Http
