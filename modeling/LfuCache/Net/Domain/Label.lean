import LfuCache.Net.Domain.Punycode
import LfuCache.Net.Domain.Refused
import LfuCache.Net.Domain.Replaced
import LfuCache.Unicode.Direction
import LfuCache.Unicode.Joining
import LfuCache.Unicode.Normal

/-!
# Labels

The parts between the dots of a domain are its labels. A label beyond ASCII is written in
Punycode, behind four characters that say so. It may come so already, and then has to be
what its own text is written as.
-/

namespace LfuCache.Net.Domain

open Unicode

structure Label where
  /-- The characters that are meant. -/
  text : List Char
  /-- The same in ASCII. -/
  written : List Char
deriving DecidableEq, Repr

def isAscii (c : Char) : Bool := c.toNat < 0x80

/-- Controls, blanks and what has a meaning in a URL. -/
def isForbidden (c : Char) : Bool :=
  c.toNat ≤ 0x20 || c.toNat == 0x7F || "%#/:<>?@[\\]^|".toList.contains c

def isRefused (c : Char) : Bool := (refused.find? c).isSome

/-! ## Joiners

Two characters without a shape say if the letters around them are joined.
-/

def joiner : Char := '\u200D'

def nonJoiner : Char := '\u200C'

/-- If the first character that is not transparent is one of these. -/
def joinsFirst (wanted : Joining → Bool) (text : List Char) : Bool :=
  match text.find? fun c => Joining.ofChar c != .transparent with
  | some c => wanted (Joining.ofChar c)
  | none => false

def keepsApart (before after : List Char) : Bool :=
  joinsFirst (fun j => j == .left || j == .both) before &&
    joinsFirst (fun j => j == .right || j == .both) after

/-- Both may follow a letter that has lost its vowel. Else one of them may keep apart two
letters that would be joined. The characters before come with the last one first. -/
def joinersFit : (before : List Char) → List Char → Bool
  | _, [] => true
  | before, c :: after =>
    let fits :=
      if c = joiner || c = nonJoiner then
        (before.head?.map combiningClass == some CombiningClass.virama) ||
          (c = nonJoiner && keepsApart before after)
      else true
    fits && joinersFit (c :: before) after

/-! ## Labels beyond ASCII -/

def isWellFormed (text : List Char) : Bool :=
  !(text.head?.map isMark).getD false && joinersFit [] text

def sign : List Char := ['x', 'n', '-', '-']

def afterSign? (text : List Char) : Option (List Char) :=
  if sign.isPrefixOf text then some (text.drop sign.length) else none

def longestEncoded : Nat := 2000

def longestText : Nat := 1000

/-- A text that nothing would be done to. -/
def isSettled (text : List Char) : Bool :=
  text.all (fun c => !isForbidden c && c ≠ '.' && !isRefused c && (replacement? c).isNone) &&
    compose text = text

/-- The label that stands behind the sign. -/
def ofEncoded? (encoded : List Char) : Option Label := do
  guard (!encoded.isEmpty && encoded.getLast? ≠ some '-' && encoded.length ≤ longestEncoded)
  let text ← Punycode.decode? encoded
  guard (isSettled text && isWellFormed text && (afterSign? text).isNone)
  return ⟨text, sign ++ encoded⟩

/-- The label of a text whose characters have been replaced and composed. -/
def Label.ofText? (text : List Char) : Option Label :=
  match afterSign? text with
  | some encoded => ofEncoded? encoded
  | none =>
    if text.any isForbidden then none
    else if text.all isAscii then some ⟨text, text⟩
    else if isWellFormed text && text.length ≤ longestText then
      some ⟨text, sign ++ Punycode.encode text⟩
    else none

end LfuCache.Net.Domain
