import LfuCache.Api.Handler
import LfuCache.Api.Route
import LfuCache.Time.Calendar

/-!
# The server

One request gives one response, and the engine may change. Pages of any origin may send any
request, and every response says so.
-/

namespace LfuCache

/-! ## Errors as responses -/

def CacheError.status : CacheError → Nat
  | .invalidKey _ => 400
  | .valueTooLarge _ _ => 413
  | .notFound _ => 404
  | .config _ => 500
  | .internal _ => 500

def CacheError.response (error : CacheError) : Http.Response :=
  .ofMessage error.status (ErrorReply.mk error.message)

namespace Api

open Http

/-- What the clocks show when a request is handled. -/
structure Clocks where
  now : Instant
  /-- Nanoseconds since the start of 1970. -/
  moment : Nat

def reply {α : Type} [Message α] : Except CacheError α → Response
  | .ok message => .ofMessage 200 message
  | .error error => error.response

/-! ## Reading the body -/

def longestBody : Nat := 2097152

def wrongType : Response := .ofBody 415 (.text "the content type must be application/json")

def tooLong : Response := .ofBody 413 (.text "the body is too long")

def unreadable : Json.Fault → Response
  | .mismatch => .ofBody 422 (.text "the body is not a request to set a value")
  | .malformed => .ofBody 400 (.text "the body is not JSON")
  | .unfinished => .ofBody 400 (.text "the body ends too early")

def notText : Response := .ofBody 400 (.text "the key is not UTF-8")

def hasJsonType (r : Request) : Bool :=
  match r.value? "content-type" with
  | some type => ((MediaType.ofBytes? type).map MediaType.isJson).getD false
  | none => false

/-- The request in a body. The type counts first, then the length, then the form. What
follows the request in the body does not count. -/
def readSetRequest (r : Request) : Except Response SetRequest :=
  if !hasJsonType r then .error wrongType
  else if longestBody < r.body.length then .error tooLong
  else match Message.readFront SetRequest r.body with
    | .ok request => .ok request
    | .error fault => .error (unreadable fault)

/-! ## Routes -/

/-- The response of a route whose method is right. -/
def run (e : Engine) (clocks : Clocks) (r : Request) : Route → Response × Engine
  | .set =>
    match readSetRequest r with
    | .error response => (response, e)
    | .ok request =>
      let (result, e) := setValue e request clocks.now
      (reply result, e)
  | .get segment =>
    match Route.key? segment with
    | none => (notText, e)
    | some key =>
      let (result, e) := getValue e key clocks.now
      (reply result, e)
  | .delete segment =>
    match Route.key? segment with
    | none => (notText, e)
    | some key =>
      let (result, e) := deleteValue e key clocks.now
      (reply result, e)
  | .clear => (.ofMessage 200 ({} : ClearReply), e.clear)
  | .stats => (.ofMessage 200 (StatsReply.ofStats e.stats), e)
  | .health => (.ofMessage 200 (HealthReply.healthy (Calendar.render clocks.moment)), e)

/-- A request for the head gets the response without its body. -/
def withoutBody (r : Request) (response : Response) : Response :=
  if r.method = .head then { response with body := .empty } else response

def allowed (route : Route) : List (String × String) := [("allow", route.allowHeader)]

def respondTo (e : Engine) (clocks : Clocks) (r : Request) : Option Route → Response × Engine
  | none => (⟨404, [], .empty⟩, e)
  | some route =>
    if route.allows r.method then
      let (response, e) := run e clocks r route
      (withoutBody r response, e)
    else (⟨405, allowed route, .empty⟩, e)

/-! ## All requests -/

/-- What a response depends on. -/
def varyHeader : String × String :=
  ("vary", "origin, access-control-request-method, access-control-request-headers")

def originHeader : String × String := ("access-control-allow-origin", "*")

/-- The answer to the question what is allowed. It never reaches a handler. -/
def permission (route : Option Route) : Response where
  status := 200
  headers := ((route.map allowed).getD []) ++
    [("access-control-allow-methods", "*"), ("access-control-allow-headers", "*")]
  body := .empty

def respond (e : Engine) (clocks : Clocks) (r : Request) : Response × Engine :=
  let route := Route.ofPath? r.target.path
  let (response, e) :=
    if r.method = .options then (permission route, e) else respondTo e clocks r route
  ({ response with headers := response.headers ++ [varyHeader, originHeader] }, e)

end Api

end LfuCache
