import LfuCache.Net.Url.Authority

/-!
# URLs

A URL has a scheme, perhaps an authority, a path, and perhaps a query and a fragment. The
path is a list of segments, or one text if no slash follows the scheme. Other URLs can be
built only on one with segments. A part is kept as it is written, with its unsafe bytes
encoded.
-/

namespace LfuCache.Net

open Text

structure Url where
  scheme : List UInt8
  authority : Option Authority
  /-- Written with a dot before its path, which could be taken for a host. -/
  dotted : Bool
  segments : List (List UInt8)
  query : Option (List UInt8)
  fragment : Option (List UInt8)
deriving DecidableEq

/-- A URL without segments. -/
structure PlainUrl where
  scheme : List UInt8
  path : List UInt8
  query : Option (List UInt8)
  fragment : Option (List UInt8)
deriving DecidableEq, Repr

inductive AnyUrl where
  | url (u : Url)
  | plain (u : PlainUrl)
deriving DecidableEq

namespace Url

/-! ## Reading -/

/-- A tab and the two ends of line are dropped wherever they are. -/
def isDropped (b : UInt8) : Bool := b == 0x09 || b == 0x0A || b == 0x0D

/-- Controls and blanks at both ends do not count. -/
def clean (text : List UInt8) : List UInt8 :=
  let trimmed := ((text.dropWhile (· ≤ 0x20)).reverse.dropWhile (· ≤ 0x20)).reverse
  trimmed.filter fun b => !isDropped b

/-- The text before a query, the query and the fragment. -/
def splitEnd (text : List UInt8) : List UInt8 × Option (List UInt8) × Option (List UInt8) :=
  let after (mark : UInt8) (text : List UInt8) : Option (List UInt8) :=
    if text.contains mark then some ((text.dropWhile (· ≠ mark)).drop 1) else none
  let front := text.takeWhile (· ≠ 0x23)
  (front.takeWhile (· ≠ 0x3F), after 0x3F front, after 0x23 text)

/-- What follows two slashes. In the web, any number of them will do, but not for files. -/
def afterSlashes? (scheme : List UInt8) (text : List UInt8) : Option (List UInt8) :=
  if isWeb scheme && !isFile scheme then some (text.dropWhile (isSlash scheme))
  else match text with
    | a :: b :: rest => if isSlash scheme a && isSlash scheme b then some rest else none
    | _ => none

/-- The host and the path of a file. A drive is no host, and is on no other machine. -/
def readFilePlace (text : List UInt8) : Except UrlError (Authority × List (List UInt8)) := do
  let scheme := bytes "file"
  let host := text.takeWhile fun b => !isSlash scheme b
  let rest := text.drop host.length
  if isDrive host then return (.nowhere, readPath scheme text)
  let authority ← Authority.readFileHost host
  if (splitSegments scheme rest).any isDrive then return (.nowhere, readPath scheme rest)
  return (authority, readPath scheme rest)

/-- The authority and the path of a URL with two slashes. -/
def readPlace (scheme : List UInt8) (text : List UInt8) (ended : Bool) :
    Except UrlError (Authority × List (List UInt8)) := do
  if isFile scheme then readFilePlace text
  else
    let front := text.takeWhile fun b => !isSlash scheme b
    let rest := text.drop front.length
    let (authority, more) ← Authority.read scheme front (ended && rest.isEmpty)
    return (authority, readPath scheme (more ++ rest))

/-- A URL of a known scheme, from what follows the colon. -/
def ofRest (scheme : List UInt8) (text : List UInt8) : Except UrlError AnyUrl := do
  let (front, query, fragment) := splitEnd text
  let query := query.map (Percent.encode (querySafe scheme))
  let fragment := fragment.map (Percent.encode fragmentSafe)
  match afterSlashes? scheme front with
  | some rest =>
    let (authority, path) ← readPlace scheme rest (query.isNone && fragment.isNone)
    return .url ⟨scheme, some authority, false, path, query, fragment⟩
  | none =>
    let path := readPath scheme front
    if isWeb scheme then return .url ⟨scheme, some .nowhere, false, path, query, fragment⟩
    else if front.head? = some 0x2F then
      return .url ⟨scheme, none, looksLikeHost path, path, query, fragment⟩
    else return .plain ⟨scheme, Percent.encode (fun b => !Host.isControl b) front, query, fragment⟩

/-- Reads a URL that stands on its own. -/
def read (text : String) : Except UrlError AnyUrl :=
  match takeScheme (clean (bytes text)) with
  | some (scheme, rest) => ofRest scheme rest
  | none => .error .noBase

/-! ## Building on a URL -/

/-- Leaves out an empty segment at the end. The only segment of a path stays. -/
def popIfEmpty (u : Url) : Url :=
  if 1 < u.segments.length && u.segments.getLast? = some [] then
    { u with segments := u.segments.dropLast }
  else u

/-- Adds one segment. A path that is only a slash starts anew. A text of one or two dots
adds nothing. -/
def push (u : Url) (text : String) : Url :=
  if text = "." || text = ".." then u
  else
    let kept := (bytes text).filter fun b => !isDropped b
    let path := if u.segments = [[]] then [] else u.segments
    let segment := Percent.encode (segmentSafe u.scheme) kept
    { u with segments := trim u.scheme (addSegment u.scheme path segment true) }

/-- The URL that lies below this one by so many segments. -/
def extend (u : Url) (texts : List String) : Url := texts.foldl push u.popIfEmpty

/-! ## Parts -/

def host? (u : Url) : Option Host := u.authority.map (·.host)

/-- The port that is written, or the one that the scheme has anyway. -/
def port? (u : Url) : Option Nat := (u.authority.bind (·.port)).or (webPort? u.scheme).join

def credentials? (u : Url) : Option Credentials := u.authority.bind Authority.credentials?

/-- Leaves out a user that can be named apart from the URL. -/
def withoutUser (u : Url) : Url :=
  if u.credentials?.isSome then { u with authority := u.authority.map Authority.withoutUser }
  else u

/-! ## Writing -/

def writeEnd (query fragment : Option (List UInt8)) : List UInt8 :=
  let part (mark : UInt8) (text : Option (List UInt8)) : List UInt8 :=
    match text with
    | some text => mark :: text
    | none => []
  part 0x3F query ++ part 0x23 fragment

def path (u : Url) : List UInt8 := writePath u.segments

def write (u : Url) : List UInt8 :=
  let start := match u.authority with
    | some authority => [0x2F, 0x2F] ++ authority.write
    | none => if u.dotted then [0x2F, 0x2E] else []
  u.scheme ++ [0x3A] ++ start ++ u.path ++ writeEnd u.query u.fragment

def text (u : Url) : String := (string? u.write).getD ""

/-! ## References

A reference is read where another URL stands, and leaves out what they share.
-/

/-- The same place with another path. -/
def withPath (u : Url) (path : List (List UInt8)) : Url :=
  { u with segments := path, dotted := u.authority.isNone && looksLikeHost path }

/-- A reference without a scheme of its own. -/
def joinRelative (u : Url) (reference : List UInt8) : Except UrlError AnyUrl := do
  let (front, query, fragment) := splitEnd reference
  let query := query.map (Percent.encode (querySafe u.scheme))
  let fragment := fragment.map (Percent.encode fragmentSafe)
  match front with
  | [] => return .url { u with query := query.or u.query, fragment }
  | a :: rest =>
    if isSlash u.scheme a then
      if (rest.head?.map (isSlash u.scheme)).getD false then ofRest u.scheme reference
      else return .url { u.withPath (readPath u.scheme front) with query, fragment }
    else
      let path := addSegments u.scheme u.segments.dropLast (splitSegments u.scheme front)
      return .url { u.withPath (trim u.scheme path) with query, fragment }

/-- The URL that a reference names, if it has segments. -/
def join? (u : Url) (reference : List UInt8) : Option Url :=
  let text := clean reference
  let joined := match takeScheme text with
    | some (scheme, rest) =>
      if scheme = u.scheme && isWeb scheme && !(rest.head?.map (isSlash scheme)).getD false then
        u.joinRelative rest
      else ofRest scheme rest
    | none => u.joinRelative text
  match joined with
  | .ok (.url u) => some u
  | _ => none

end Url

def PlainUrl.write (u : PlainUrl) : List UInt8 :=
  u.scheme ++ [0x3A] ++ u.path ++ Url.writeEnd u.query u.fragment

end LfuCache.Net
