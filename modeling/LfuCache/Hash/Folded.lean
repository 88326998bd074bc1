/-!
# A keyed hash by folded products

A fold multiplies two words and joins the two halves of the product. The hash of a byte
string absorbs its length and then its bytes, two words at a time.
-/

namespace LfuCache.FoldedHash

/-- The lower half of the product, exclusive or with the upper half. -/
def fold (a b : UInt64) : UInt64 :=
  let product := a.toNat * b.toNat
  UInt64.ofNat product ^^^ UInt64.ofNat (product / UInt64.size)

def rotateLeft (x : UInt64) (n : UInt64) : UInt64 :=
  x <<< n ||| x >>> ((64 - n) % 64)

def multiplier : UInt64 := 6364136223846793005

/-- A number of at most eight bytes, the lowest byte first. -/
def littleEndian (bytes : List UInt8) : UInt64 :=
  bytes.foldr (fun b acc => acc <<< 8 ||| b.toUInt64) 0

structure Keys where
  pad : UInt64
  buffer : UInt64
  extraLow : UInt64
  extraHigh : UInt64

/-- Four words of a fixed key, each joined with a word of the seed. -/
def Keys.ofSeeds (a b c d : UInt64) : Keys where
  pad := a ^^^ 0x452821e638d01377
  buffer := b ^^^ 0xbe5466cf34e90c6c
  extraLow := c ^^^ 0xc0ac29b7c97c50dd
  extraHigh := d ^^^ 0x3f84d5b5b5470917

/-- Absorbs two words. -/
def absorb (keys : Keys) (buffer a b : UInt64) : UInt64 :=
  rotateLeft ((buffer + keys.pad) ^^^ fold (a ^^^ keys.extraLow) (b ^^^ keys.extraHigh)) 23

/-- Absorbs two words, given as bytes. -/
def absorbBytes (keys : Keys) (buffer : UInt64) (a b : List UInt8) : UInt64 :=
  absorb keys buffer (littleEndian a) (littleEndian b)

/-- Absorbs the first `n` groups of sixteen bytes. -/
def absorbGroups (keys : Keys) : Nat → List UInt8 → UInt64 → UInt64
  | 0, _, buffer => buffer
  | n + 1, bytes, buffer =>
    let next := absorbBytes keys buffer (bytes.take 8) ((bytes.drop 8).take 8)
    absorbGroups keys n (bytes.drop 16) next

/-- The last sixteen bytes come first. Then come all groups of sixteen but a last one,
whole or not. Shorter strings give their two ends, which may overlap. -/
def absorbAll (keys : Keys) (buffer : UInt64) (bytes : List UInt8) : UInt64 :=
  let n := bytes.length
  let last (k : Nat) := bytes.drop (n - k)
  if n > 16 then
    let tail := last 16
    absorbGroups keys ((n - 1) / 16) bytes (absorbBytes keys buffer (tail.take 8) (tail.drop 8))
  else if n > 8 then absorbBytes keys buffer (bytes.take 8) (last 8)
  else if n ≥ 4 then absorbBytes keys buffer (bytes.take 4) (last 4)
  else if n ≥ 2 then absorbBytes keys buffer (bytes.take 2) (last 1)
  else absorbBytes keys buffer bytes bytes

def hash (keys : Keys) (bytes : List UInt8) : UInt64 :=
  let n := UInt64.ofNat bytes.length
  let buffer := (fold (n ^^^ keys.buffer) multiplier + n) * multiplier
  let buffer := absorbAll keys buffer bytes
  rotateLeft (fold buffer keys.pad) (buffer &&& 63)

end LfuCache.FoldedHash
