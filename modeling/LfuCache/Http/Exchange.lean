import LfuCache.Http.MediaType
import LfuCache.Http.Target
import LfuCache.Message

/-!
# Requests and responses

Names of headers are in lower case. A body of a response is a message, a text or nothing.
-/

namespace LfuCache.Http

open Text

inductive Method where
  | get
  | head
  | put
  | post
  | delete
  | options
  | other (name : String)
deriving DecidableEq, Repr

def Method.ofString : String → Method
  | "GET" => .get
  | "HEAD" => .head
  | "PUT" => .put
  | "POST" => .post
  | "DELETE" => .delete
  | "OPTIONS" => .options
  | name => .other name

def Method.name : Method → String
  | .get => "GET"
  | .head => "HEAD"
  | .put => "PUT"
  | .post => "POST"
  | .delete => "DELETE"
  | .options => "OPTIONS"
  | .other name => name

structure Request where
  method : Method
  target : Target
  headers : List (String × List UInt8)
  body : List UInt8

namespace Request

def isToken (text : List UInt8) : Bool := !text.isEmpty && text.all MediaType.isTokenByte

/-- No control character but the tab may stand in a header. -/
def isHeaderByte (b : UInt8) : Bool := b == 0x09 || (0x20 ≤ b && b != 0x7F)

/-- A header with a valid name and value. The name loses its case. -/
def header? (name : String) (value : List UInt8) : Option (String × List UInt8) :=
  if isToken (bytes name) && value.all isHeaderByte then some (name.map Char.toLower, value)
  else none

/-- A request, if each of its parts has the right form. -/
def ofParts? (method : String) (target : List UInt8) (headers : List (String × List UInt8))
    (body : List UInt8) : Option Request := do
  guard (isToken (bytes method))
  let target ← Target.ofBytes? target
  let headers ← headers.mapM fun (name, value) => header? name value
  some ⟨.ofString method, target, headers, body⟩

/-- The first header of this name. -/
def value? (r : Request) (name : String) : Option (List UInt8) :=
  r.headers.lookup name

end Request

inductive Body where
  | empty
  | json (members : List (String × Json.Scalar))
  | text (s : String)
deriving DecidableEq

def Body.bytes : Body → List UInt8
  | .empty => []
  | .json members => Text.bytes (Json.writeCompact members)
  | .text s => Text.bytes s

/-- The media type that a body is sent as. -/
def Body.contentType? : Body → Option String
  | .empty => none
  | .json _ => some "application/json"
  | .text _ => some "text/plain; charset=utf-8"

structure Response where
  status : Nat
  headers : List (String × String)
  body : Body
deriving DecidableEq

/-- A response with this body and the header that it needs. -/
def Response.ofBody (status : Nat) (body : Body) : Response where
  status
  headers := (body.contentType?.map fun type => ("content-type", type)).toList
  body

def Response.ofMessage {α : Type} [Message α] (status : Nat) (message : α) : Response :=
  .ofBody status (.json (Message.members message))

end LfuCache.Http
