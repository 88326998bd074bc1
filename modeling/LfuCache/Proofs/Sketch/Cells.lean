import Mathlib
import LfuCache.Sketch

/-!
# The table as counters

A word of the table is sixteen hexadecimal digits, and each of them is a counter of its own.
Here is what a raise and a halving do to every counter, so that nobody else has to look at
bits.
-/

namespace LfuCache.Sketch

/-! ## Digits of a number -/

def digit (n i : Nat) : Nat := n / 16 ^ i % 16

theorem digit_lt (n i : Nat) : digit n i < 16 := Nat.mod_lt _ (by omega)

theorem digit_add_pow {n i : Nat} (h : digit n i < 15) (j : Nat) :
    digit (n + 16 ^ i) j = digit n j + if j = i then 1 else 0 := by
  have hpos : 0 < 16 ^ i := Nat.pow_pos (by omega)
  have hup : (n + 16 ^ i) / 16 ^ i = n / 16 ^ i + 1 := Nat.add_div_right n hpos
  unfold digit at h ⊢
  rcases Nat.lt_trichotomy j i with hlt | rfl | hgt
  · -- The part that is added is a multiple of sixteen at this digit.
    obtain ⟨k, rfl⟩ := Nat.exists_eq_add_of_lt hlt
    have hsplit : 16 ^ (j + k + 1) = 16 ^ j * (16 * 16 ^ k) := by ring
    rw [hsplit, Nat.add_mul_div_left _ _ (Nat.pow_pos (by omega)), if_neg (by omega)]
    omega
  · rw [hup, if_pos rfl]
    omega
  · -- Nothing is carried over from the digit that was raised.
    obtain ⟨k, rfl⟩ := Nat.exists_eq_add_of_lt hgt
    have hsplit : 16 ^ (i + k + 1) = 16 ^ i * (16 * 16 ^ k) := by ring
    have hsame : (n / 16 ^ i + 1) / 16 = n / 16 ^ i / 16 := by omega
    rw [hsplit, ← Nat.div_div_eq_div_mul, ← Nat.div_div_eq_div_mul, hup, hsame,
      ← Nat.div_div_eq_div_mul, ← Nat.div_div_eq_div_mul, if_neg (by omega), Nat.add_zero]

theorem add_pow_lt {n i k : Nat} (hn : n < 16 ^ k) (hi : i < k) (h : digit n i < 15) :
    n + 16 ^ i < 16 ^ k := by
  obtain ⟨m, rfl⟩ := Nat.exists_eq_add_of_lt hi
  have hpos : 0 < 16 ^ i := Nat.pow_pos (by omega)
  have hsplit : 16 ^ (i + m + 1) = 16 * 16 ^ m * 16 ^ i := by ring
  unfold digit at h
  rw [hsplit, ← Nat.div_lt_iff_lt_mul hpos] at hn ⊢
  rw [Nat.add_div_right n hpos]
  omega

theorem testBit_digit (n i b : Nat) :
    (digit n i).testBit b = (decide (b < 4) && n.testBit (4 * i + b)) := by
  have hpow : (16 : Nat) ^ i = 2 ^ (4 * i) := by rw [Nat.pow_mul]
  have hbase : (16 : Nat) = 2 ^ 4 := rfl
  unfold digit
  rw [hpow, hbase, Nat.testBit_mod_two_pow, Nat.testBit_div_two_pow, Nat.add_comm b]

theorem digit_and (m n i : Nat) : digit (m &&& n) i = digit m i &&& digit n i := by
  apply Nat.eq_of_testBit_eq
  intro b
  simp only [Nat.testBit_and, testBit_digit]
  cases decide (b < 4) <;> simp

theorem digit_halvingMask : ∀ i < 16, digit halvingMask.toNat i = 7 := by decide

theorem digit_halved (n : Nat) {i : Nat} (hi : i < 16) :
    digit (n / 2 &&& halvingMask.toNat) i = digit n i / 2 := by
  have hseven : (7 : Nat) = 2 ^ 3 - 1 := rfl
  rw [digit_and, digit_halvingMask i hi, hseven, Nat.and_two_pow_sub_one_eq_mod]
  unfold digit
  rw [Nat.div_div_eq_div_mul, Nat.mul_comm, ← Nat.div_div_eq_div_mul]
  omega

theorem eq_of_digit_eq {m n : Nat} (hm : m < 16 ^ 16) (hn : n < 16 ^ 16)
    (h : ∀ i < 16, digit m i = digit n i) : m = n := by
  have hpow : (16 : Nat) ^ 16 = 2 ^ 64 := by norm_num
  apply Nat.eq_of_testBit_eq
  intro b
  by_cases hb : b < 64
  · have hm' := testBit_digit m (b / 4) (b % 4)
    have hn' := testBit_digit n (b / 4) (b % 4)
    rw [Nat.div_add_mod, h (b / 4) (by omega)] at hm'
    rw [Nat.div_add_mod, hm'] at hn'
    simpa [Nat.mod_lt b (show 0 < 4 by omega)] using hn'
  · have hlarge : (2 : Nat) ^ 64 ≤ 2 ^ b := Nat.pow_le_pow_right (by omega) (by omega)
    rw [Nat.testBit_lt_two_pow (by omega), Nat.testBit_lt_two_pow (by omega)]

/-! ## Counters -/

/-- The counter at a digit of a word. -/
def cell {width : Nat} (table : Vector UInt64 width) (word : Fin width) (i : Fin 16) : Nat :=
  digit table[word].toNat i

theorem cell_le {width : Nat} (table : Vector UInt64 width) (word : Fin width) (i : Fin 16) :
    cell table word i ≤ 15 := Nat.le_of_lt_succ (digit_lt _ _)

theorem table_ext {width : Nat} {table other : Vector UInt64 width}
    (h : ∀ word i, cell table word i = cell other word i) : table = other := by
  have hpow : (16 : Nat) ^ 16 = 2 ^ 64 := by norm_num
  apply Vector.ext
  intro word hword
  apply UInt64.toNat_inj.mp
  apply eq_of_digit_eq (hpow ▸ UInt64.toNat_lt _) (hpow ▸ UInt64.toNat_lt _)
  intro i hi
  exact h ⟨word, hword⟩ ⟨i, hi⟩

namespace Slot

variable {width : Nat}

/-- The digit that the slot leads to. -/
def digit (place : Slot width) : Fin 16 := ⟨place.shift.toNat / 4 % 16, Nat.mod_lt _ (by omega)⟩

/-- The slot starts where a digit starts. -/
def Aligned (place : Slot width) : Prop := place.shift.toNat = 4 * place.digit.val

end Slot

theorem toNat_shift (logWidth : Nat) (hash seed : UInt64) :
    (slot logWidth hash seed).shift.toNat = 4 * ((hash * seed).toNat / 2 ^ 28 % 16) := by
  have hmask : (0xF : UInt64).toNat = 2 ^ 4 - 1 := rfl
  have htwo : (2 : UInt64).toNat % 64 = 2 := rfl
  have hright : (28 : UInt64).toNat % 64 = 28 := rfl
  simp only [slot, UInt64.toNat_shiftLeft, UInt64.toNat_and, UInt64.toNat_shiftRight, htwo, hright,
    hmask, Nat.and_two_pow_sub_one_eq_mod, Nat.shiftLeft_eq, Nat.shiftRight_eq_div_pow]
  omega

theorem slot_aligned (logWidth : Nat) (hash seed : UInt64) : (slot logWidth hash seed).Aligned := by
  unfold Slot.Aligned Slot.digit
  simp only [toNat_shift]
  omega

section Table

variable {width : Nat} {table : Vector UInt64 width} {place : Slot width}

theorem toNat_count (h : place.Aligned) :
    (count table place).toNat = cell table place.word place.digit := by
  have hmask : (0xF : UInt64).toNat = 2 ^ 4 - 1 := rfl
  have hpow : (16 : Nat) ^ place.digit.val = 2 ^ (4 * place.digit.val) := by rw [Nat.pow_mul]
  have hsmall : 4 * place.digit.val % 64 = 4 * place.digit.val := by omega
  unfold count cell Sketch.digit
  rw [UInt64.toNat_and, UInt64.toNat_shiftRight, h, hsmall, hmask, Nat.and_two_pow_sub_one_eq_mod,
    Nat.shiftRight_eq_div_pow, hpow]

theorem cell_set (word : Fin width) (w : UInt64) (other : Fin width) (i : Fin 16) :
    cell (table.set word w) other i =
      if word = other then digit w.toNat i else cell table other i := by
  unfold cell
  simp only [Fin.getElem_fin, Vector.getElem_set, Fin.ext_iff]
  split <;> rfl

theorem count_lt_maxCount_iff (h : place.Aligned) :
    count table place < maxCount ↔ cell table place.word place.digit < 15 := by
  rw [UInt64.lt_iff_toNat_lt, toNat_count h]
  rfl

theorem toNat_raised (h : place.Aligned) {w : UInt64} (hless : digit w.toNat place.digit < 15) :
    (w + 1 <<< place.shift).toNat = w.toNat + 16 ^ place.digit.val := by
  have hpow : (16 : Nat) ^ place.digit.val = 2 ^ (4 * place.digit.val) := by rw [Nat.pow_mul]
  have hsmall : 4 * place.digit.val % 64 = 4 * place.digit.val := by omega
  have hword : (2 : Nat) ^ 64 = 16 ^ 16 := by norm_num
  -- The counter that goes up is not full, so nothing is carried out of the word.
  have hlt : w.toNat + 16 ^ place.digit.val < 2 ^ 64 :=
    hword ▸ add_pow_lt (hword ▸ w.toNat_lt) place.digit.isLt hless
  have hone : (1 <<< place.shift).toNat = 16 ^ place.digit.val := by
    rw [UInt64.toNat_shiftLeft, h, hsmall, Nat.shiftLeft_eq, hpow, UInt64.toNat_one, Nat.one_mul,
      Nat.mod_eq_of_lt (by omega)]
  rw [UInt64.toNat_add, hone, Nat.mod_eq_of_lt hlt]

theorem cell_raise (h : place.Aligned) (added : Bool) (word : Fin width) (i : Fin 16) :
    cell (raise (table, added) place).1 word i =
      min 15 (cell table word i + if place.word = word ∧ place.digit = i then 1 else 0) := by
  have hle := cell_le table word i
  unfold raise
  simp only [count_lt_maxCount_iff h]
  by_cases hless : cell table place.word place.digit < 15
  · simp only [if_pos hless]
    rw [cell_set, toNat_raised h hless, digit_add_pow hless]
    by_cases hword : place.word = word
    · subst hword
      have hsame : i.val = place.digit.val ↔ place.digit = i := by rw [eq_comm, Fin.ext_iff]
      have hlimit := cell_le table place.word i
      unfold cell at hless hlimit ⊢
      simp only [hsame, true_and, if_true]
      split
      · rename_i heq
        subst heq
        omega
      · omega
    · simp only [hword, false_and, if_false]
      omega
  · simp only [if_neg hless]
    split
    · rename_i heq
      obtain ⟨rfl, rfl⟩ := heq
      omega
    · omega

/-! ## All counters at once -/

theorem cell_raiseAll {places : List (Slot width)} (h : ∀ place ∈ places, place.Aligned)
    (added : Bool) (word : Fin width) (i : Fin 16) :
    cell (places.foldl raise (table, added)).1 word i =
      min 15 (cell table word i +
        places.countP fun place => place.word = word ∧ place.digit = i) := by
  induction places generalizing table added with
  | nil =>
    have hle := cell_le table word i
    simp only [List.foldl_nil, List.countP_nil]
    omega
  | cons place places ih =>
    obtain ⟨hplace, hplaces⟩ := List.forall_mem_cons.mp h
    rw [List.foldl_cons, ← Prod.mk.eta (p := raise (table, added) place), ih hplaces,
      cell_raise hplace, List.countP_cons]
    simp only [decide_eq_true_eq]
    split <;> omega

theorem cell_halve (table : Vector UInt64 width) (word : Fin width) (i : Fin 16) :
    cell (table.map halve) word i = cell table word i / 2 := by
  unfold cell halve
  simp only [Fin.getElem_fin, Vector.getElem_map]
  rw [UInt64.toNat_and, UInt64.toNat_shiftRight]
  exact digit_halved _ i.isLt

end Table

end LfuCache.Sketch
