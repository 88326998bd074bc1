import LfuCache.Net.Url.Path

/-!
# Authorities

An authority is a host, perhaps with a user and a password before it and a port behind it.
-/

namespace LfuCache.Net

open Text

structure Authority where
  username : List UInt8
  password : List UInt8
  host : Host
  /-- None if it is the one that the scheme has anyway. -/
  port : Option Nat
deriving DecidableEq

/-- The name of a user and a password. -/
structure Credentials where
  username : List UInt8
  password : List UInt8
deriving DecidableEq, Repr

namespace Authority

/-- The authority of a URL that has to have one, and has none. -/
def nowhere : Authority := ⟨[], [], .name [], none⟩

/-! ## Reading -/

/-- A number up to 65535, or none without digits. A backslash may follow. It starts what
does not belong here any more. -/
def readPort (text : List UInt8) : Except UrlError (Option Nat × List UInt8) :=
  let digits := text.takeWhile isDigit
  let rest := text.drop digits.length
  if UInt16.size ≤ decimal digits || rest.head?.getD 0x5C ≠ 0x5C then .error .invalidPort
  else .ok (if digits.isEmpty then none else some (decimal digits), rest)

/-- The bytes of a host and what follows. A colon in brackets belongs to the host. -/
def splitHost : (inBrackets : Bool) → List UInt8 → List UInt8 × List UInt8
  | _, [] => ([], [])
  | inBrackets, b :: rest =>
    if b = 0x3A && !inBrackets then ([], b :: rest)
    else
      let inside := if b = 0x5B then true else if b = 0x5D then false else inBrackets
      let (host, rest) := splitHost inside rest
      (b :: host, rest)

def readHost (scheme : List UInt8) (text : List UInt8) : Except UrlError Host :=
  if Url.isWeb scheme then
    if text.isEmpty then
      if Url.isFile scheme then .ok (.name []) else .error .emptyHost
    else Host.ofWeb text
  else Host.ofPlain text

/-- What stands before the last `@`, and what follows it. -/
def splitUser (text : List UInt8) : Option (List UInt8 × List UInt8) :=
  if text.contains 0x40 then
    let host := (text.reverse.takeWhile (· ≠ 0x40)).reverse
    some (text.take (text.length - host.length - 1), host)
  else none

/-- A name, a colon and a password. -/
def readUser (text : List UInt8) : List UInt8 × List UInt8 :=
  let name := text.takeWhile (· ≠ 0x3A)
  (Percent.encode Url.userSafe name, Percent.encode Url.userSafe (text.drop (name.length + 1)))

/-- An authority, and what does not belong to it any more. An `@` that names nobody, with
nothing behind it, is an error unless the text ends there. -/
def read (scheme : List UInt8) (text : List UInt8) (ended : Bool) :
    Except UrlError (Authority × List UInt8) := do
  if text = [0x40] && !ended then throw .emptyHost
  let (user, rest) := (splitUser text).getD ([], text)
  let (username, password) := readUser user
  let (hostText, portText) := splitHost false rest
  let host ← readHost scheme hostText
  if host = .name [] && !portText.isEmpty then throw .emptyHost
  let (port, rest) ← readPort (portText.drop 1)
  if host = .name [] && !(username.isEmpty && password.isEmpty) then throw .emptyHost
  let port := port.filter fun p => (Url.webPort? scheme).join ≠ some p
  return (⟨username, password, host, port⟩, rest)

/-- The host of a file. It has no user and no port, and the same machine is no host. -/
def readFileHost (text : List UInt8) : Except UrlError Authority := do
  let host ← readHost (bytes "file") text
  return { nowhere with host := if host = .name (bytes "localhost") then .name [] else host }

/-! ## Users -/

/-- The user that is named, if the name is text. A password that is no text is none. -/
def credentials? (a : Authority) : Option Credentials :=
  let username := Percent.decode a.username
  let password := Percent.decode a.password
  let password := if isUtf8 password then password else []
  if !isUtf8 username || (username.isEmpty && password.isEmpty) then none
  else some ⟨username, password⟩

def withoutUser (a : Authority) : Authority := { a with username := [], password := [] }

/-! ## Writing -/

def writeHost (a : Authority) : List UInt8 :=
  a.host.write ++
    match a.port with
    | some port => bytes s!":{port}"
    | none => []

def write (a : Authority) : List UInt8 :=
  let password := if a.password.isEmpty then [] else 0x3A :: a.password
  let user := a.username ++ password
  (if user.isEmpty then [] else user ++ [0x40]) ++ a.writeHost

end Authority

end LfuCache.Net
