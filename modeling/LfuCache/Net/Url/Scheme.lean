import LfuCache.Net.Host

/-!
# Schemes

A scheme says how the rest of a URL is read. Those of the web have rules of their own, and
files some more.
-/

namespace LfuCache.Net.Url

open Text

/-- The port that a scheme of the web has anyway. -/
def webPort? (scheme : List UInt8) : Option (Option Nat) :=
  match string? scheme with
  | some "http" => some (some 80)
  | some "https" => some (some 443)
  | some "ws" => some (some 80)
  | some "wss" => some (some 443)
  | some "ftp" => some (some 21)
  | some "file" => some none
  | _ => none

def isWeb (scheme : List UInt8) : Bool := (webPort? scheme).isSome

def isFile (scheme : List UInt8) : Bool := scheme == bytes "file"

/-- A backslash is a slash in the schemes of the web. -/
def isSlash (scheme : List UInt8) (b : UInt8) : Bool := b == 0x2F || (isWeb scheme && b == 0x5C)

def isSchemeByte (b : UInt8) : Bool :=
  isAlpha b || isDigit b || b == 0x2B || b == 0x2D || b == 0x2E

/-- The scheme and what follows its colon. -/
def takeScheme (text : List UInt8) : Option (List UInt8 × List UInt8) :=
  match text with
  | [] => none
  | first :: _ =>
    match text.dropWhile isSchemeByte with
    | 0x3A :: rest =>
      if isAlpha first then some ((text.takeWhile isSchemeByte).map lower, rest) else none
    | _ => none

/-! ## Unsafe bytes

Controls and bytes beyond ASCII are always encoded. Each part has some more.
-/

def isSafe (others : String) (b : UInt8) : Bool :=
  !Host.isControl b && !isOneOf others b

def fragmentSafe : UInt8 → Bool := isSafe " \"<>`"

def pathSafe : UInt8 → Bool := isSafe " \"<>`#?\x7b\x7d"

def userSafe : UInt8 → Bool := isSafe " \"<>`#?\x7b\x7d/:;=@[\\]^|"

def querySafe (scheme : List UInt8) : UInt8 → Bool :=
  isSafe (if isWeb scheme then " \"#<>'" else " \"#<>")

/-- In a single segment, a slash and a percent sign are unsafe too. -/
def segmentSafe (scheme : List UInt8) : UInt8 → Bool :=
  isSafe (if isWeb scheme then " \"<>`#?\x7b\x7d/%\\" else " \"<>`#?\x7b\x7d/%")

end LfuCache.Net.Url
