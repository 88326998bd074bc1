import LfuCache.Random.ChaCha

/-!
# Draws

A generator is a key of the keystream and the number of 64-bit words drawn so far. A draw
below a bound has no bias: a word that would favour some results is drawn again.
-/

namespace LfuCache

structure Generator where
  key : Vector UInt32 8
  /-- Words of 64 bits drawn so far. A block holds eight. -/
  drawn : Nat

namespace Generator

/-! ## Seeds -/

def seedStep (state : UInt64) : UInt64 :=
  state * 6364136223846793005 + 11634580027462260723

/-- The upper bits of the state, rotated by its top five. -/
def seedWord (state : UInt64) : UInt32 :=
  let mixed := (((state >>> 18) ^^^ state) >>> 27).toUInt32
  let turn := (state >>> 59).toUInt32
  mixed >>> turn ||| mixed <<< ((32 - turn) % 32)

/-- Word `i` of the key comes from the state after `i + 1` steps. -/
def ofSeed (seed : UInt64) : Generator where
  key := Vector.ofFn fun i => seedWord (Nat.repeat seedStep (i.val + 1) seed)
  drawn := 0

/-! ## Draws -/

/-- Two words of the keystream, the low one first. -/
def word (g : Generator) : UInt64 :=
  let block := ChaCha.block g.key (UInt64.ofNat (g.drawn / 8))
  let i : Fin 8 := ⟨g.drawn % 8, Nat.mod_lt _ (by decide)⟩
  block[2 * i.val].toUInt64 ||| block[2 * i.val + 1].toUInt64 <<< 32

def advance (g : Generator) : Generator :=
  { g with drawn := g.drawn + 1 }

/-- The upper half of the product of a word and the bound. -/
def scale (v : UInt64) (n : Nat) (h : 0 < n) : Fin n :=
  ⟨v.toNat * n / UInt64.size, Nat.div_lt_of_lt_mul (Nat.mul_lt_mul_of_pos_right v.toNat_lt h)⟩

/-- A word is fair for `n` if the lower half of the product is in the zone. The zone is `n`
shifted up to 64 bits, less one. -/
def fair (v : UInt64) (n : Nat) : Bool :=
  decide (v.toNat * n % UInt64.size ≤ n <<< (63 - n.log2) - 1)

/-- Draws again while the word is not fair. More than half of all words are fair, so the
draws never run out in practice. If they did, the last one would stand. -/
def drawBelow (n : Nat) (h : 0 < n) : Nat → Generator → Fin n × Generator
  | 0, g => (scale g.word n h, g.advance)
  | tries + 1, g =>
    let v := g.word
    if fair v n then (scale v n h, g.advance) else drawBelow n h tries g.advance

/-- A number below `n`. -/
def below (g : Generator) (n : Nat) (h : 0 < n) : Fin n × Generator :=
  drawBelow n h 256 g

end Generator

end LfuCache
