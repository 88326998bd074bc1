import LfuCache.Text.Ascii

/-!
# Request targets

A target is a path with an optional query, or an absolute address, or a bare authority, or
a star. Only its path matters here. What follows a `#` is cut off.
-/

namespace LfuCache.Http

open Text

structure Target where
  /-- As it was sent. Nothing is decoded. -/
  path : List UInt8
deriving DecidableEq, Repr

namespace Target

def longest : Nat := 65534

/-! ## Paths -/

/-- Bytes that a path may hold. -/
def isPathByte (b : UInt8) : Bool :=
  0x80 ≤ b || (0x21 ≤ b && b ≠ 0x7F && !isOneOf "#<>?`" b)

/-- Bytes that a query may hold. -/
def isQueryByte (b : UInt8) : Bool :=
  0x80 ≤ b || (0x21 ≤ b && b ≠ 0x7F && !isOneOf "\"#<>" b)

/-- The path before a query or a fragment. What is kept of the text has to be UTF-8. -/
def ofPath? (text : List UInt8) : Option Target :=
  let kept := text.takeWhile (· ≠ 0x23)
  let path := kept.takeWhile (· ≠ 0x3F)
  let query := (kept.dropWhile (· ≠ 0x3F)).drop 1
  if path.all isPathByte && query.all isQueryByte && isUtf8 kept then
    some ⟨if path.isEmpty then [0x2F] else path⟩
  else none

/-! ## Authorities -/

def isAuthorityByte (b : UInt8) : Bool :=
  isAlpha b || isDigit b || isOneOf "!$%&'()*+,-.:;=@[]_~" b

/-- A slash, a question mark or a number sign ends an authority. -/
def endsAuthority (b : UInt8) : Bool := b == 0x2F || b == 0x3F || b == 0x23

/-- What an authority holds so far. A name before `@` and an address in brackets have
colons and percent signs of their own. -/
structure Authority where
  colons : Nat := 0
  percent : Bool := false
  opened : Bool := false
  closed : Bool := false

def Authority.step (a : Authority) (b : UInt8) : Option Authority :=
  if b = 0x3A then if a.colons < 8 then some { a with colons := a.colons + 1 } else none
  else if b = 0x5B then if a.percent || a.opened then none else some { a with opened := true }
  else if b = 0x5D then
    if a.opened && !a.closed then some { a with closed := true, colons := 0, percent := false }
    else none
  else if b = 0x40 then some { a with colons := 0, percent := false }
  else if b = 0x25 then some { a with percent := true }
  else if isAuthorityByte b then some a
  else none

def isAuthority (text : List UInt8) : Bool :=
  match text.foldlM Authority.step {} with
  | none => false
  | some a => a.opened == a.closed && a.colons ≤ 1 && !a.percent && text.getLast? != some 0x40

/-! ## All forms -/

def isSchemeByte (b : UInt8) : Bool :=
  isAlpha b || isDigit b || isOneOf "+-.~" b

def longestScheme : Nat := 64

/-- The text after a scheme and `://`, if there is one. -/
def afterScheme? (text : List UInt8) : Option (List UInt8 × List UInt8) :=
  let scheme := text.takeWhile isSchemeByte
  match text.dropWhile isSchemeByte with
  | 0x3A :: 0x2F :: 0x2F :: rest => some (scheme, rest)
  | _ => none

/-- An absolute address needs an authority. Without a scheme there is nothing but one. -/
def ofAddress? (text : List UInt8) : Option Target :=
  match afterScheme? text with
  | some (scheme, rest) =>
    let authority := rest.takeWhile fun b => !endsAuthority b
    if longestScheme < scheme.length || authority.isEmpty || !isAuthority authority then none
    else ofPath? (rest.dropWhile fun b => !endsAuthority b)
  | none =>
    if isAuthority text then some ⟨[]⟩ else none

def ofBytes? (text : List UInt8) : Option Target :=
  if longest < text.length then none
  else match text with
    | [] => none
    | [0x2A] => some ⟨text⟩
    | 0x2F :: _ => ofPath? text
    | _ => ofAddress? text

end Target

end LfuCache.Http
