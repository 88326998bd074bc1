import LfuCache.Client.Network
import LfuCache.Text.Lossy

/-!
# A cache behind a network

Each operation of the cache is one call. A call that reaches nobody is tried again, each
time after a longer pause. An answer that reports an error is an error.
-/

namespace LfuCache.Client

open Net

inductive ClientError where
  /-- No answer, after so many attempts. -/
  | connection (attempts : Nat) (causes : List String)
  /-- The answer has a status that is no success. -/
  | server (status : Nat) (message : String)
  /-- The answer does not have the right form. -/
  | decode
  | invalidUrl (reason : String)
deriving DecidableEq, Repr

def ClientError.message : ClientError → String
  | .connection attempts causes =>
    s!"connection failed after {attempts} attempt(s): " ++ causes.headD ""
  | .server status message => s!"server returned {status}: " ++ message
  | .decode => "failed to decode response: error decoding response body"
  | .invalidUrl reason => "invalid server url: " ++ reason

/-- What lies behind an error. -/
def ClientError.causes : ClientError → List String
  | .connection _ causes => causes
  | _ => []

structure Remote where
  base : Url
  /-- Attempts after the first. -/
  retries : Nat := 3
  /-- Milliseconds before the first retry. The next ones wait as much longer each. -/
  backoff : Nat := 200

def defaultServer : String := "http://127.0.0.1:5050"

namespace Remote

/-- The server at a URL that others can be built on. -/
def ofUrl (text : String) : Except ClientError Remote :=
  match Url.read text with
  | .ok (.url base) => .ok { base }
  | .ok (.plain url) => .error (.invalidUrl ((Text.string? url.write).getD ""))
  | .error e => .error (.invalidUrl e.message)

/-! ## Calls -/

variable {m : Type → Type} [Monad m] (network : Network m) (r : Remote)

/-- Makes attempts while none reaches the server. -/
def attempt (call : Call) : (left made : Nat) → m (Except ClientError Answer)
  | left, made => do
    match ← network.follow mostRedirects call with
    | .answered answer => return .ok answer
    | .broken causes => return .error (.connection (made + 1) causes)
    | .unreachable causes =>
      match left with
      | 0 => return .error (.connection (made + 1) causes)
      | left + 1 =>
        network.pause (r.backoff * (made + 1))
        attempt call left (made + 1)

/-- Sends a call to the place below the base that the texts name. -/
def send (method : Http.Method) (path : List String) (body : Option SetRequest) :
    m (Except ClientError Answer) :=
  r.attempt network (.to (r.base.extend path) method body) r.retries 0

/-! ## Answers -/

def isSuccess (status : Nat) : Bool := 200 ≤ status && status < 300

/-- The error in a body, or the body itself. -/
def errorText (body : List UInt8) : String :=
  let text := Text.ofBytes body
  match Message.read ErrorReply (Text.bytes text) with
  | .ok reply => reply.error
  | .error _ => text

def decode (α : Type) [Message α] (answer : Answer) : Except ClientError α :=
  if isSuccess answer.status then
    match Message.read α answer.body with
    | .ok message => .ok message
    | .error _ => .error .decode
  else .error (.server answer.status (errorText answer.body))

/-! ## Operations -/

/-- A key that is not there has no value. -/
def get (key : String) : m (Except ClientError (Option String)) := do
  match ← r.send network .get ["get", key] none with
  | .error e => return .error e
  | .ok answer =>
    if answer.status = 404 then return .ok none
    else return (decode ValueReply answer).map fun reply => some reply.value

def set (request : SetRequest) : m (Except ClientError SetReply) := do
  return (← r.send network .put ["set"] (some request)).bind (decode SetReply)

def delete (key : String) : m (Except ClientError DeleteReply) := do
  return (← r.send network .delete ["del", key] none).bind (decode DeleteReply)

def clear : m (Except ClientError ClearReply) := do
  return (← r.send network .post ["clear"] none).bind (decode ClearReply)

def stats : m (Except ClientError StatsReply) := do
  return (← r.send network .get ["stats"] none).bind (decode StatsReply)

def health : m (Except ClientError HealthReply) := do
  return (← r.send network .get ["health"] none).bind (decode HealthReply)

end Remote

end LfuCache.Client
