import LfuCache.Decimal.Double
import LfuCache.Text.Ascii

/-!
# Numbers in text

Both readers take a whole text or nothing. There are no blanks and no separators.
-/

namespace LfuCache.Decimal

def isDigit (c : Char) : Bool := '0' ≤ c && c ≤ '9'

def digitValue (c : Char) : Nat := c.toNat - '0'.toNat

def ofDigits (digits : List Char) : Nat := Text.ofDigits 10 (digits.map digitValue)

/-! ## Whole numbers -/

/-- Digits that make up a word of 64 bits. A plus sign may stand in front. -/
def readWord (text : String) : Option Nat :=
  let digits := match text.toList with
    | '+' :: rest => rest
    | rest => rest
  if digits.isEmpty || !digits.all isDigit then none
  else
    let n := ofDigits digits
    if n < UInt64.size then some n else none

/-! ## Doubles -/

/-- The double nearest to `digits * 10 ^ exponent`. Far outside the range of doubles there
is nothing to compute. -/
def nearest (digits : Nat) (exponent : Int) : Double :=
  let leading := (Nat.toDigits 10 digits).length + exponent
  if digits = 0 || leading < -400 then ⟨0⟩
  else if leading > 400 then .infinity
  else .ofFloat (Float.ofScientific digits (exponent < 0) exponent.natAbs)

/-- What follows the mark of an exponent: a sign if need be, and digits to the end. -/
def readExponent (text : List Char) : Option Int :=
  let (negative, digits) := match text with
    | '-' :: rest => (true, rest)
    | '+' :: rest => (false, rest)
    | rest => (false, rest)
  if digits.isEmpty || !digits.all isDigit then none
  else if negative then some (-ofDigits digits) else some (ofDigits digits)

/-- Digits around an optional point, then perhaps an exponent. One digit must be there. -/
def readUnsigned (text : List Char) : Option Double :=
  let whole := text.takeWhile isDigit
  let rest := text.drop whole.length
  let (part, rest) := match rest with
    | '.' :: rest => (rest.takeWhile isDigit, rest.dropWhile isDigit)
    | rest => ([], rest)
  if whole.isEmpty && part.isEmpty then none
  else
    let value (exponent : Int) := nearest (ofDigits (whole ++ part)) (exponent - part.length)
    match rest with
    | [] => some (value 0)
    | mark :: rest =>
      if mark = 'e' || mark = 'E' then (readExponent rest).map value else none

def readMagnitude (text : List Char) : Option Double :=
  match text.map Char.toLower with
  | ['i', 'n', 'f'] | ['i', 'n', 'f', 'i', 'n', 'i', 't', 'y'] => some .infinity
  | ['n', 'a', 'n'] => some .nan
  | _ => readUnsigned text

def readDouble (text : String) : Option Double :=
  match text.toList with
  | '-' :: rest => (readMagnitude rest).map .negate
  | '+' :: rest => readMagnitude rest
  | rest => readMagnitude rest

end LfuCache.Decimal
