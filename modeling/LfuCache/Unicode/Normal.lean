import LfuCache.Unicode.CombiningClass
import LfuCache.Unicode.Composition

/-!
# The composed form

Texts that look the same have one composed form. It comes from taking all characters apart,
sorting the marks behind each letter by their class, and composing again.
-/

namespace LfuCache.Unicode.Normal

/-! ## Taking apart -/

def decomposeChar : (depth : Nat) → Char → List Char
  | 0, c => [c]
  | depth + 1, c =>
    match Composition.parts? c with
    | some (first, second) => decomposeChar depth first ++ [second]
    | none => [c]

/-- No character has more parts than this. -/
def mostParts : Nat := 8

def decompose (text : List Char) : List Char := text.flatMap (decomposeChar mostParts)

/-! ## Sorting marks -/

/-- Puts a character in front, but behind marks of a lower class. -/
def place (c : Char) : List Char → List Char
  | [] => [c]
  | d :: rest =>
    if 0 < combiningClass d && combiningClass d < combiningClass c then d :: place c rest
    else c :: d :: rest

def sortMarks (text : List Char) : List Char := text.foldr place []

/-! ## Composing -/

/-- A mark does not reach a letter past a mark of its own class or a higher one. -/
def reaches (held : List Char) (c : Char) : Bool :=
  match held with
  | [] => true
  | last :: _ => combiningClass last < combiningClass c

/-- Composes a letter with what follows it. The marks that are held are those that could not
be composed with it, the last one first. -/
def composeFrom : (letter : Char) → (held : List Char) → List Char → List Char
  | letter, held, [] => letter :: held.reverse
  | letter, held, c :: rest =>
    match if reaches held c then Composition.whole? letter c else none with
    | some whole => composeFrom whole held rest
    | none =>
      if combiningClass c = 0 then letter :: (held.reverse ++ composeFrom c [] rest)
      else composeFrom letter (c :: held) rest

/-- Marks at the front have no letter. -/
def compose : List Char → List Char
  | [] => []
  | c :: rest => if combiningClass c = 0 then composeFrom c [] rest else c :: compose rest

end Normal

def compose (text : List Char) : List Char :=
  Normal.compose (Normal.sortMarks (Normal.decompose text))

end LfuCache.Unicode
