import LfuCache.Net.Domain
import LfuCache.Net.SocketAddress
import LfuCache.Text.Percent

/-!
# Hosts

A host is a name or an address. In the schemes of the web a name is a domain. One that ends
in a number has to be an IPv4 address, and the parts of one may be octal or hexadecimal. In
other schemes a host is a name as it stands, or an IPv6 address in brackets.
-/

namespace LfuCache.Net

open Text

/-- Why a text is not a URL. -/
inductive UrlError where
  | noBase
  | emptyHost
  | invalidPort
  | invalidV4
  | invalidV6
  | invalidName
  | invalidCharacter
deriving DecidableEq, Repr

def UrlError.message : UrlError → String
  | .noBase => "relative URL without a base"
  | .emptyHost => "empty host"
  | .invalidPort => "invalid port number"
  | .invalidV4 => "invalid IPv4 address"
  | .invalidV6 => "invalid IPv6 address"
  | .invalidName => "invalid international domain name"
  | .invalidCharacter => "invalid domain character"

inductive Host where
  | name (text : List UInt8)
  | address (ip : IpAddress)
deriving DecidableEq

namespace Host

/-- Bytes below 0x80 as characters. -/
def chars (text : List UInt8) : List Char := text.map fun b => Char.ofNat b.toNat

/-! ## IPv4 -/

/-- A number after `0x` is hexadecimal, and after any other zero it is octal. -/
def radixAndDigits : List Char → Nat × List Char
  | '0' :: 'x' :: digits => (16, digits)
  | '0' :: 'X' :: digits => (16, digits)
  | '0' :: d :: digits => (8, d :: digits)
  | digits => (10, digits)

def readNumber (text : List Char) : Option Nat :=
  if text.isEmpty then none
  else
    let (radix, digits) := radixAndDigits text
    (digits.mapM (digitValue? radix)).map (ofDigits radix)

def splitDots (text : List Char) : List (List Char) := text.splitOn '.'

/-- The parts between the dots. A dot at the end does not count. -/
def parts (text : List Char) : List (List Char) :=
  match (splitDots text).reverse with
  | [] :: front => front.reverse
  | all => all.reverse

/-- The last part is a number, or looks like a decimal one. -/
def endsInNumber (text : List Char) : Bool :=
  match (parts text).getLast? with
  | none => false
  | some last => (!last.isEmpty && last.all Char.isDigit) || (readNumber last).isSome

/-- The last number fills all octets that the others leave. -/
def joinNumbers (front : List Nat) (last : Nat) : Option (Vector UInt8 4) :=
  if front.all (· ≤ 255) && last < 1 <<< (8 * (4 - front.length)) then
    let n := ofDigits 256 front <<< (8 * (4 - front.length)) + last
    some (Vector.ofFn fun i : Fin 4 => (n >>> (8 * (3 - i.val))).toUInt8)
  else none

def readV4 (text : List Char) : Option (Vector UInt8 4) := do
  let parts := parts text
  guard (parts.length ≤ 4)
  let numbers ← parts.mapM readNumber
  joinNumbers numbers.dropLast (← numbers.getLast?)

/-! ## Names -/

/-- Bytes that no host outside the web may hold. -/
def isForbidden (b : UInt8) : Bool :=
  b == 0x00 || b == 0x09 || b == 0x0A || b == 0x0D || b == 0x20 ||
    isOneOf "#/:<>?@[\\]^|" b

def isControl (b : UInt8) : Bool := b < 0x20 || 0x7F ≤ b

/-! ## Reading -/

/-- An IPv6 address, after its opening bracket. -/
def ofBrackets (text : List UInt8) : Except UrlError Host :=
  if text.getLast? = some 0x5D then
    match Net.readV6 (chars text.dropLast) with
    | some (groups, []) => .ok (.address (.v6 groups))
    | _ => .error .invalidV6
  else .error .invalidV6

/-- A host of a scheme that the web does not know. Controls in it are encoded. -/
def ofPlain (text : List UInt8) : Except UrlError Host :=
  match text with
  | 0x5B :: text => ofBrackets text
  | text =>
    if text.any isForbidden then .error .invalidCharacter
    else .ok (.name (Percent.encode (fun b => !isControl b) text))

/-- A name in ASCII, or an IPv4 address. -/
def ofName (name : List UInt8) : Except UrlError Host :=
  if name.isEmpty then .error .emptyHost
  else if endsInNumber (chars name) then
    match readV4 (chars name) with
    | some octets => .ok (.address (.v4 octets))
    | none => .error .invalidV4
  else .ok (.name name)

/-- A host of the web. Escapes in it are decoded first. -/
def ofWeb (text : List UInt8) : Except UrlError Host :=
  match text with
  | 0x5B :: text => ofBrackets text
  | text =>
    match Domain.toAscii? (Percent.decode text) with
    | some ascii => ofName ascii
    | none => .error .invalidName

/-! ## Writing -/

def write : Host → List UInt8
  | .name text => text
  | .address (.v4 octets) => bytes (writeV4 octets.toList)
  | .address (.v6 groups) => bytes ("[" ++ writeShort groups.toList ++ "]")

end Host

end LfuCache.Net
