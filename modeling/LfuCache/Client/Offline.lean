import LfuCache.Client.Network

/-!
# A machine without a network

Nobody can be reached from such a machine, and the host of a URL decides how that shows. An
address has no route, and a name has no address.
-/

namespace LfuCache.Client

open Net Text

/-! ## Names -/

def isHostByte (b : UInt8) : Bool := isAlpha b || isDigit b || b == 0x2D || b == 0x5F

/-- A name that one may ask for: labels that are neither empty nor long, with dots between
them, and perhaps one dot at the end. A dot alone is the root of all names. -/
def isHostName (text : List UInt8) : Bool :=
  let name := if text.getLast? = some 0x2E then text.dropLast else text
  let isLabel (label : List UInt8) : Bool :=
    !label.isEmpty && label.length ≤ 63 && label.all isHostByte
  text == [0x2E] ||
    (name.length ≤ 253 && name.head? != some 0x2D && (name.splitOn 0x2E).all isLabel)

/-! ## Causes -/

def noRoute : List String := ["tcp connect error", "Network is unreachable (os error 101)"]

def noSource : List String := ["tcp connect error", "Cannot assign requested address (os error 99)"]

def noName (reason : String) : List String :=
  ["dns error", "failed to lookup address information: " ++ reason]

/-- An IPv4 address in the form of an IPv6 address. -/
def isMapped (groups : Vector UInt16 8) : Bool := groups.toList.take 6 == [0, 0, 0, 0, 0, 0xFFFF]

/-- Why a host is not reached. The machine knows its own name, but not the way to itself. -/
def unreached : Host → List String
  | .address (.v4 _) => noRoute
  | .address (.v6 groups) => if isMapped groups then noRoute else noSource
  | .name text =>
    if text = bytes "localhost" then noRoute
    else if isHostName text then noName "Temporary failure in name resolution"
    else noName "Name or service not known"

/-- What becomes of a call that reaches nobody. -/
def nobody (call : Call) : Delivery :=
  notConnected call.url ((call.url.host?.map unreached).getD [])

def Network.offline {m : Type → Type} [Monad m] : Network m where
  deliver call := return nobody call
  pause _ := return ()

end LfuCache.Client
