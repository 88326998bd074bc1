import LfuCache.Engine
import LfuCache.Message
import LfuCache.Text.Ascii

/-!
# What requests do

Each handler is an operation on the engine whose answer is a message. A handler that fails
leaves an error, and the engine may still have changed.
-/

namespace LfuCache.Api

/-- Text as the cache stores it. -/
def keyOf (key : String) : Key := Text.bytes key

def nanosecondsPerSecond : Nat := 1000000000

/-- Says if the value was stored. A write that is turned away is no error. -/
def setValue (e : Engine) (r : SetRequest) (now : Instant) : Except CacheError SetReply × Engine :=
  match r.problem? with
  | some problem => (.error (.invalidKey problem), e)
  | none =>
    match e.set (keyOf r.key) r.value.toUTF8 r.cost (r.ttl.map (· * nanosecondsPerSecond)) now with
    | .error error => (.error error, e)
    | .ok (admitted, e) => (.ok ⟨r.key, admitted⟩, e)

/-- A value that is not UTF-8 cannot be a message. -/
def getValue (e : Engine) (key : String) (now : Instant) : Except CacheError ValueReply × Engine :=
  match e.get (keyOf key) now with
  | .error error => (.error error, e)
  | .ok (none, e) => (.error (.notFound key), e)
  | .ok (some value, e) =>
    match String.fromUTF8? value with
    | some value => (.ok ⟨key, value⟩, e)
    | none => (.error (.internal s!"value of '{key}' is not UTF-8"), e)

/-- A key that is not there is no error. -/
def deleteValue (e : Engine) (key : String) (now : Instant) :
    Except CacheError DeleteReply × Engine :=
  match e.delete (keyOf key) now with
  | .error error => (.error error, e)
  | .ok (removed, e) => (.ok ⟨key, removed⟩, e)

end LfuCache.Api
