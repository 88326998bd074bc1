import LfuCache.Http.Exchange
import LfuCache.Text.Hex

/-!
# Messages on the wire

A message is a first line, headers, an empty line and a body. The headers say where the
body ends: after so many bytes, after a last chunk, or where the connection does.
-/

namespace LfuCache.Http.Wire

open Text

/-! ## Heads -/

structure Head where
  /-- The words of the first line. -/
  first : List (List UInt8)
  headers : List (String × List UInt8)

/-- The lines before an empty one, without their ends, and what follows it. None if there
is no empty line yet. -/
def splitHead (line : List UInt8) : List UInt8 → Option (List (List UInt8) × List UInt8)
  | [] => none
  | b :: rest =>
    if b = 0x0A then
      let ended := (line.dropWhile (· = 0x0D)).reverse
      if ended.isEmpty then some ([], rest)
      else (splitHead [] rest).map fun (lines, rest) => (ended :: lines, rest)
    else splitHead (b :: line) rest

def trim (text : List UInt8) : List UInt8 :=
  let isBlank (b : UInt8) : Bool := b == 0x20 || b == 0x09
  ((text.dropWhile isBlank).reverse.dropWhile isBlank).reverse

/-- A name in lower case and a value, with a colon between them. -/
def readHeader (line : List UInt8) : Option (String × List UInt8) := do
  let name := line.takeWhile (· ≠ 0x3A)
  let value ← (line.dropWhile (· ≠ 0x3A)).tail?
  Request.header? (← string? name) (trim value)

def readHead (lines : List (List UInt8)) : Option Head := do
  let headers ← (lines.drop 1).mapM readHeader
  return ⟨(← lines.head?).splitOn 0x20, headers⟩

/-! ## Where a body ends -/

inductive Framing where
  | length (n : Nat)
  | chunks
  /-- Where the connection ends. -/
  | connection
deriving DecidableEq, Repr

def readDigits (text : List UInt8) : Option Nat :=
  if text.isEmpty || !text.all isDigit then none
  else some (decimal text)

/-- Chunks count before a length. Without either it depends on the kind of message. -/
def Head.framing (h : Head) (otherwise : Framing) : Framing :=
  if h.headers.lookup "transfer-encoding" = some (bytes "chunked") then .chunks
  else match (h.headers.lookup "content-length").bind readDigits with
    | some n => .length n
    | none => otherwise

/-- What can be said of a body from the bytes that have come so far. -/
inductive Progress where
  | more
  | done (body rest : List UInt8)
  | bad
deriving DecidableEq, Repr

/-- The text before the end of a line, and what follows it. -/
def splitLine (text : List UInt8) : Option (List UInt8 × List UInt8) :=
  let line := text.takeWhile (· ≠ 0x0A)
  match text.drop line.length with
  | _ :: rest => some ((line.reverse.dropWhile (· = 0x0D)).reverse, rest)
  | [] => none

def readSize (line : List UInt8) : Option Nat :=
  let digits := trim (line.takeWhile (· ≠ 0x3B))
  if digits.isEmpty then none
  else digits.foldlM (fun n b => (Hex.value? b).map (n * 16 + ·)) 0

/-- Joins chunks up to one of no bytes. Each takes some bytes, so there are no more of them
than bytes. What follows the last one is headers that nobody reads. -/
def readChunks : (most : Nat) → (done : List UInt8) → List UInt8 → Progress
  | 0, _, _ => .more
  | most + 1, done, text =>
    match splitLine text with
    | none => .more
    | some (line, text) =>
      match readSize line with
      | none => .bad
      | some 0 =>
        match splitHead [] text with
        | none => .more
        | some (_, rest) => .done done rest
      | some n =>
        if text.length < n + 2 then .more
        else readChunks most (done ++ text.take n) (text.drop (n + 2))

/-- A body that its framing says has come. `ended` tells that nothing more will come. -/
def readBody (framing : Framing) (ended : Bool) (text : List UInt8) : Progress :=
  let progress := match framing with
    | .length n => if text.length < n then .more else .done (text.take n) (text.drop n)
    | .chunks => readChunks (text.length + 1) [] text
    | .connection => if ended then .done text [] else .more
  if ended && progress == .more then .bad else progress

/-! ## Writing -/

def headerLine (name : String) (value : List UInt8) : List UInt8 :=
  bytes (name ++ ": ") ++ value ++ bytes "\r\n"

/-- The words that go with a status. -/
def reason (status : Nat) : String :=
  match status with
  | 200 => "OK"
  | 400 => "Bad Request"
  | 404 => "Not Found"
  | 405 => "Method Not Allowed"
  | 413 => "Payload Too Large"
  | 415 => "Unsupported Media Type"
  | 422 => "Unprocessable Entity"
  | 500 => "Internal Server Error"
  | _ => "Unknown"

/-- A response with its length. -/
def writeResponse (r : Response) (keep : Bool) : List UInt8 :=
  let body := r.body.bytes
  bytes s!"HTTP/1.1 {r.status} {reason r.status}\r\n" ++
    r.headers.flatMap (fun (name, value) => headerLine name (bytes value)) ++
    headerLine "content-length" (bytes (toString body.length)) ++
    (if keep then [] else headerLine "connection" (bytes "close")) ++ bytes "\r\n" ++ body

/-- A request with its length, if it has a body. -/
def writeRequest (method : Method) (target host : List UInt8)
    (headers : List (String × List UInt8)) (body : Option (List UInt8)) : List UInt8 :=
  bytes (method.name ++ " ") ++ target ++ bytes " HTTP/1.1\r\n" ++ headerLine "host" host ++
    headers.flatMap (fun (name, value) => headerLine name value) ++
    headerLine "accept" (bytes "*/*") ++ headerLine "connection" (bytes "close") ++
    (match body with
      | some body =>
        headerLine "content-length" (bytes (toString body.length)) ++ bytes "\r\n" ++ body
      | none => bytes "\r\n")

end LfuCache.Http.Wire
