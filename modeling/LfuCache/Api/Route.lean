import LfuCache.Http.Exchange
import LfuCache.Text.Percent

/-!
# Routes

A path names what is asked for, and each route has one method. A key is one segment of the
path, and it is decoded after the route is found.
-/

namespace LfuCache.Api

open Text

inductive Route where
  | set
  | get (segment : List UInt8)
  | delete (segment : List UInt8)
  | clear
  | stats
  | health
deriving DecidableEq, Repr

namespace Route

/-- A segment is not empty and has no slash. -/
def isSegment (bytes : List UInt8) : Bool := !bytes.isEmpty && !bytes.contains 0x2F

/-- What follows a text at the front. -/
def after? (start : String) (path : List UInt8) : Option (List UInt8) :=
  let start := bytes start
  if start.isPrefixOf path then some (path.drop start.length) else none

/-- The segment that follows a text at the front. -/
def segmentAfter? (start : String) (path : List UInt8) : Option (List UInt8) :=
  (after? start path).filter isSegment

def fixed? (path : List UInt8) : Option Route :=
  match string? path with
  | some "/set" => some .set
  | some "/clear" => some .clear
  | some "/stats" => some .stats
  | some "/health" => some .health
  | _ => none

/-- Case counts, and so does a slash at the end. -/
def ofPath? (path : List UInt8) : Option Route :=
  match fixed? path with
  | some route => some route
  | none =>
    match segmentAfter? "/get/" path with
    | some segment => some (.get segment)
    | none => (segmentAfter? "/del/" path).map .delete

def method : Route → Http.Method
  | .set => .put
  | .get _ => .get
  | .delete _ => .delete
  | .clear => .post
  | .stats => .get
  | .health => .get

/-- A route that may be read may also be asked for its head. -/
def allows (route : Route) (method : Http.Method) : Bool :=
  method == route.method || (route.method == .get && method == .head)

def allowHeader (route : Route) : String :=
  if route.method = .get then "GET,HEAD" else route.method.name

/-- The key in a segment, if it is UTF-8. -/
def key? (segment : List UInt8) : Option String :=
  string? (Percent.decode segment)

end Route

end LfuCache.Api
