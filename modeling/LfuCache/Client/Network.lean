import LfuCache.Http.Exchange
import LfuCache.Net.Url
import LfuCache.Text.Base64

/-!
# What a client needs of a network

A call goes out, and a delivery comes back. The network may keep a state of its own, so a
call runs in a monad. Answers that send the client elsewhere are followed.
-/

namespace LfuCache.Client

open Net

/-- A request before it is sent. -/
structure Call where
  method : Http.Method
  url : Url
  body : Option SetRequest
  user : Option Credentials

/-- A call to a URL. A user in the URL is named beside it. -/
def Call.to (url : Url) (method : Http.Method) (body : Option SetRequest) : Call :=
  ⟨method, url.withoutUser, body, url.credentials?⟩

structure Answer where
  status : Nat
  /-- Where the answer sends the client. -/
  location : Option (List UInt8)
  body : List UInt8
deriving DecidableEq, Repr

/-- What became of a call. The causes of a failure are texts, the outermost first. -/
inductive Delivery where
  | answered (answer : Answer)
  /-- No connection was made, so another try may help. -/
  | unreachable (causes : List String)
  /-- The call was not sent, or the connection was lost after it was made. -/
  | broken (causes : List String)
deriving DecidableEq, Repr

structure Network (m : Type → Type) where
  deliver : Call → m Delivery
  /-- Does nothing for some milliseconds. -/
  pause : Nat → m Unit

/-! ## Causes -/

def notBuilt (url : Url) (cause : String) : Delivery :=
  .broken ["builder error for url (" ++ url.text ++ ")", cause]

def sendingFailed (url : Url) : String := "error sending request for url (" ++ url.text ++ ")"

def notConnected (url : Url) (causes : List String) : Delivery :=
  .unreachable (sendingFailed url :: "client error (Connect)" :: causes)

def tooManyRedirects (url : Url) : Delivery :=
  .broken ["error following redirect for url (" ++ url.text ++ ")", "too many redirects"]

/-! ## Sending

Only two schemes have the right form for a call, and only one of them can be spoken.
-/

/-- Why a call cannot be sent, whatever the network. -/
def Call.obstacle? (call : Call) : Option Delivery :=
  let scheme := call.url.scheme
  if call.url.authority.isNone || (scheme ≠ Text.bytes "http" && scheme ≠ Text.bytes "https") then
    some (notBuilt call.url "URL scheme is not allowed")
  else if (Http.Target.ofBytes? call.url.write).isNone then
    some (notBuilt call.url "Parsed Url is not a valid Uri")
  else if scheme = Text.bytes "https" then
    some (notConnected call.url ["invalid URL, scheme is not http"])
  else none

variable {m : Type → Type} [Monad m]

def Network.send (network : Network m) (call : Call) : m Delivery :=
  match call.obstacle? with
  | some delivery => return delivery
  | none => network.deliver call

/-! ## Headers -/

/-- The path and the query of a URL, which a request asks for. -/
def Call.target (call : Call) : List UInt8 := call.url.path ++ Url.writeEnd call.url.query none

/-- How a user is named in a header. -/
def authorization (user : Credentials) : List UInt8 :=
  Text.bytes "Basic " ++ Text.Base64.encode (user.username ++ [0x3A] ++ user.password)

/-- The headers of a call that depend on it. -/
def Call.headers (call : Call) : List (String × List UInt8) :=
  (match call.user with
    | some user => [("authorization", authorization user)]
    | none => []) ++
  (if call.body.isSome then [("content-type", Text.bytes "application/json")] else [])

/-! ## Redirects -/

def Answer.isRedirect (a : Answer) : Bool :=
  a.status = 301 || a.status = 302 || a.status = 303 || a.status = 307 || a.status = 308

/-- Two statuses say to repeat the call as it was. After the others it is a question. -/
def Answer.repeats (a : Answer) : Bool := a.status = 307 || a.status = 308

/-- A user is named only to the machine and port that the call went to at first. -/
def Call.move (call : Call) (url : Url) : Call :=
  let keeps := url.host? = call.url.host? && url.port? = call.url.port?
  { call with url, user := if keeps then call.user else none }

/-- The call that an answer asks for, if it names a place. -/
def Answer.next? (a : Answer) (call : Call) : Option Call := do
  guard a.isRedirect
  let call := call.move (← call.url.join? (← a.location))
  if a.repeats then return call
  else return { call with body := none, method := if call.method = .head then .head else .get }

def mostRedirects : Nat := 10

/-- Follows answers to where they lead. -/
def Network.follow (network : Network m) : (left : Nat) → Call → m Delivery
  | left, call => do
    match ← network.send call with
    | .answered answer =>
      match answer.next? call with
      | none => return .answered answer
      | some next =>
        match left with
        | 0 => return tooManyRedirects next.url
        | left + 1 => network.follow left next
    | failure => return failure

end LfuCache.Client
