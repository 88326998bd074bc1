import LfuCache.Text.Ascii

/-!
# Socket addresses in text

An IPv4 address has four decimal parts, an IPv6 address eight hexadecimal groups. A run of
zero groups may be left out once. The last two groups may be an IPv4 address.
-/

namespace LfuCache.Net

open Text

inductive IpAddress where
  | v4 (octets : Vector UInt8 4)
  | v6 (groups : Vector UInt16 8)
deriving DecidableEq

structure SocketAddress where
  address : IpAddress
  /-- The zone of an IPv6 address. Zero is none. -/
  scope : UInt32
  port : UInt16
deriving DecidableEq

/-! ## Reading

A reader takes a beginning of the text and gives back the rest.
-/

def digitValue? (radix : Nat) (c : Char) : Option Nat :=
  let value :=
    if '0' ≤ c ∧ c ≤ '9' then some (c.toNat - '0'.toNat)
    else if 'a' ≤ c ∧ c ≤ 'z' then some (c.toNat - 'a'.toNat + 10)
    else if 'A' ≤ c ∧ c ≤ 'Z' then some (c.toNat - 'A'.toNat + 10)
    else none
  value.filter (· < radix)

def takeDigits (radix : Nat) : List Char → List Nat × List Char
  | [] => ([], [])
  | c :: rest =>
    match digitValue? radix c with
    | none => ([], c :: rest)
    | some d =>
      let (digits, rest) := takeDigits radix rest
      (d :: digits, rest)

def readChar (expected : Char) : List Char → Option (List Char)
  | [] => none
  | c :: rest => if c = expected then some rest else none

/-- Decimal digits of a number below the limit. -/
def readDecimal (limit : Nat) (text : List Char) : Option (Nat × List Char) :=
  let (digits, rest) := takeDigits 10 text
  let n := ofDigits 10 digits
  if digits.isEmpty || limit ≤ n then none else some (n, rest)

/-- At most three digits, without a zero in front of others. -/
def readOctet (text : List Char) : Option (UInt8 × List Char) :=
  let (digits, rest) := takeDigits 10 text
  let n := ofDigits 10 digits
  if digits.isEmpty || 3 < digits.length || 255 < n then none
  else if digits.head? = some 0 && 1 < digits.length then none
  else some (n.toUInt8, rest)

/-- At most four digits. -/
def readGroup (text : List Char) : Option (UInt16 × List Char) :=
  let (digits, rest) := takeDigits 16 text
  if digits.isEmpty || 4 < digits.length then none
  else some ((ofDigits 16 digits).toUInt16, rest)

def readV4 (text : List Char) : Option (Vector UInt8 4 × List Char) := do
  let (a, text) ← readOctet text
  let (b, text) ← readOctet (← readChar '.' text)
  let (c, text) ← readOctet (← readChar '.' text)
  let (d, text) ← readOctet (← readChar '.' text)
  some (#v[a, b, c, d], text)

def joinOctets (high low : UInt8) : UInt16 := high.toUInt16 <<< 8 ||| low.toUInt16

/-- Up to `room` groups, with a colon before each but the first. An IPv4 address takes the
place of two groups and ends them. Also says if there was one. -/
def readGroups : (room : Nat) → (first : Bool) → List Char → List UInt16 × Bool × List Char
  | 0, _, text => ([], false, text)
  | room + 1, first, text =>
    let inner := if first then some text else readChar ':' text
    match (if 0 < room then inner.bind readV4 else none) with
    | some (octets, rest) =>
      ([joinOctets octets[0] octets[1], joinOctets octets[2] octets[3]], true, rest)
    | none =>
      match inner.bind readGroup with
      | none => ([], false, text)
      | some (group, rest) =>
        let (groups, v4, rest) := readGroups room false rest
        (group :: groups, v4, rest)

/-- The groups before and after a run of zeros. -/
def joinGroups (head tail : List UInt16) : Vector UInt16 8 :=
  Vector.ofFn fun i : Fin 8 =>
    if i.val < head.length then head.getD i.val 0
    else if i.val + tail.length < 8 then 0
    else tail.getD (i.val + tail.length - 8) 0

def readV6 (text : List Char) : Option (Vector UInt16 8 × List Char) :=
  let (head, v4, text) := readGroups 8 true text
  if head.length = 8 then some (joinGroups head [], text)
  else if v4 then none
  else do
    let text ← readChar ':' (← readChar ':' text)
    let (tail, _, text) := readGroups (7 - head.length) true text
    some (joinGroups head tail, text)

def readPort (text : List Char) : Option (UInt16 × List Char) := do
  let (port, text) ← readDecimal UInt16.size (← readChar ':' text)
  some (port.toUInt16, text)

/-- A zone that cannot be read is left in the text. -/
def readScope (text : List Char) : UInt32 × List Char :=
  match (readChar '%' text).bind (readDecimal UInt32.size) with
  | some (scope, rest) => (scope.toUInt32, rest)
  | none => (0, text)

def readSocketV4 (text : List Char) : Option (SocketAddress × List Char) := do
  let (octets, text) ← readV4 text
  let (port, text) ← readPort text
  some (⟨.v4 octets, 0, port⟩, text)

def readSocketV6 (text : List Char) : Option (SocketAddress × List Char) := do
  let (groups, text) ← readV6 (← readChar '[' text)
  let (scope, text) := readScope text
  let (port, text) ← readPort (← readChar ']' text)
  some (⟨.v6 groups, scope, port⟩, text)

/-- Reads the whole text. -/
def SocketAddress.ofString? (text : String) : Option SocketAddress :=
  match (readSocketV4 text.toList).or (readSocketV6 text.toList) with
  | some (address, []) => some address
  | _ => none

/-! ## Writing -/

def writeV4 (octets : List UInt8) : String :=
  ".".intercalate (octets.map fun o => toString o.toNat)

def writeGroups (groups : List UInt16) : String :=
  ":".intercalate (groups.map fun g => String.ofList (Nat.toDigits 16 g.toNat))

/-- Zero groups from the start of the list. -/
def zeroRun (groups : List UInt16) : Nat := (groups.takeWhile (· = 0)).length

/-- The place and length of the longest run of zeros, the first of them if there are more. -/
def longestZeroRun (groups : List UInt16) : Nat × Nat :=
  (List.range groups.length).foldl (fun best i =>
    let n := zeroRun (groups.drop i)
    if best.2 < n then (i, n) else best) (0, 0)

/-- An IPv4 address after five zero groups and one with all bits set is written as such. -/
def mappedV4? (groups : List UInt16) : Option (List UInt8) :=
  match groups with
  | [0, 0, 0, 0, 0, 0xFFFF, high, low] =>
    some [(high >>> 8).toUInt8, high.toUInt8, (low >>> 8).toUInt8, low.toUInt8]
  | _ => none

/-- The longest run of two zeros or more is left out. -/
def writeShort (groups : List UInt16) : String :=
  let (start, length) := longestZeroRun groups
  if 1 < length then
    writeGroups (groups.take start) ++ "::" ++ writeGroups (groups.drop (start + length))
  else writeGroups groups

def writeV6 (groups : List UInt16) : String :=
  match mappedV4? groups with
  | some octets => "::ffff:" ++ writeV4 octets
  | none => writeShort groups

def SocketAddress.render (s : SocketAddress) : String :=
  let port := toString s.port.toNat
  match s.address with
  | .v4 octets => writeV4 octets.toList ++ ":" ++ port
  | .v6 groups =>
    let scope := if s.scope = 0 then "" else "%" ++ toString s.scope.toNat
    "[" ++ writeV6 groups.toList ++ scope ++ "]:" ++ port

end LfuCache.Net
