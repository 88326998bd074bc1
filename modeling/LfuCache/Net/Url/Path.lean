import LfuCache.Net.Url.Scheme

/-!
# Paths

A path is a list of segments, with a slash before each. One dot is the place where it
stands, and two dots go back by one segment. Among files, some segments name a drive.
-/

namespace LfuCache.Net.Url

open Text

/-! ## Drives -/

/-- A letter and a colon or a bar. -/
def isDrive (text : List UInt8) : Bool :=
  match text with
  | [letter, mark] => isAlpha letter && (mark == 0x3A || mark == 0x7C)
  | _ => false

/-- A drive is written with a colon. At the start of a path, what follows the colon is a
segment of its own. -/
def driveSegments (first : Bool) (segment : List UInt8) : List (List UInt8) :=
  match segment with
  | letter :: 0x3A :: rest =>
    if isAlpha letter && first && !rest.isEmpty then [[letter, 0x3A], rest] else [segment]
  | [letter, 0x7C] => if isAlpha letter then [[letter, 0x3A]] else [segment]
  | _ => [segment]

/-! ## Dots -/

/-- A dot may also be written as an escape. -/
def dots : List UInt8 → Option Nat
  | [] => some 0
  | 0x2E :: rest => (dots rest).map (· + 1)
  | 0x25 :: 0x32 :: e :: rest => if lower e = 0x65 then (dots rest).map (· + 1) else none
  | _ => none

/-- Leaves out the last segment. A drive stays. -/
def goBack (path : List (List UInt8)) : List (List UInt8) :=
  if (path.getLast?.map isDrive).getD false then path else path.dropLast

/-! ## Segments -/

/-- Adds a segment. At the end of a path, dots leave an empty segment. -/
def addSegment (scheme : List UInt8) (path : List (List UInt8)) (segment : List UInt8)
    (last : Bool) : List (List UInt8) :=
  let stay := if last then [[]] else []
  match dots segment with
  | some 1 => path ++ stay
  | some 2 => goBack path ++ stay
  | _ => path ++ if isFile scheme then driveSegments path.isEmpty segment else [segment]

def addSegments (scheme : List UInt8) :
    List (List UInt8) → List (List UInt8) → List (List UInt8)
  | path, [] => path
  | path, [segment] => addSegment scheme path segment true
  | path, segment :: rest => addSegments scheme (addSegment scheme path segment false) rest

/-- The path of a file does not start with an empty segment, unless that is all of it. -/
def trim (scheme : List UInt8) (path : List (List UInt8)) : List (List UInt8) :=
  if isFile scheme then
    match path.dropWhile List.isEmpty with
    | [] => [[]]
    | path => path
  else path

/-- The texts between slashes. The first slash starts a path and ends no segment. -/
def splitSegments (scheme : List UInt8) (text : List UInt8) : List (List UInt8) :=
  let text := if (text.head?.map (isSlash scheme)).getD false then text.drop 1 else text
  (text.splitOnP (isSlash scheme)).map (Percent.encode pathSafe)

/-- The segments of a path. Outside the web, a path may have none. -/
def readPath (scheme : List UInt8) (text : List UInt8) : List (List UInt8) :=
  if text.isEmpty && !isWeb scheme then []
  else trim scheme (addSegments scheme [] (splitSegments scheme text))

def writePath (path : List (List UInt8)) : List UInt8 :=
  path.flatMap fun segment => 0x2F :: segment

/-- A path that starts like a host, with two slashes. -/
def looksLikeHost (path : List (List UInt8)) : Bool :=
  match path with
  | [] :: _ :: _ => true
  | _ => false

end LfuCache.Net.Url
