import Mathlib
import LfuCache.Json.Record
import LfuCache.Proofs.Text.Bytes

/-!
# Whole numbers, there and back

A number of up to 64 bits is read as it was written, if what follows does not go on with it.
-/

namespace LfuCache.Json

open Text

/-! ## Digits -/

/-- The decimal digits of a number, the first one on top. -/
def digitsOf (n : Nat) : List Nat := (Nat.toDigits 10 n).map fun c => c.toNat - 0x30

theorem toNat_of_mem_toDigits {n : Nat} {c : Char} (h : c ∈ Nat.toDigits 10 n) :
    0x30 ≤ c.toNat ∧ c.toNat ≤ 0x39 := by
  have hdigit := Nat.isDigit_of_mem_toDigits (by decide) (by decide) h
  simpa [Char.isDigit, UInt32.le_iff_toNat_le] using hdigit

theorem head_toDigits {n : Nat} (h : 0 < n) : (Nat.toDigits 10 n).head? ≠ some '0' := by
  induction n using Nat.strong_induction_on with
  | _ n ih =>
    rw [Nat.toDigits_eq_if (by decide)]
    split
    · rename_i hone
      interval_cases n <;> decide
    · rw [List.head?_append_of_ne_nil _ Nat.toDigits_ne_nil]
      exact ih (n / 10) (by omega) (by omega)

theorem digitsOf_ne_zero_cons (n d : Nat) (digits : List Nat) : digitsOf n ≠ 0 :: d :: digits := by
  intro hdigits
  cases n with
  | zero => simp [digitsOf] at hdigits
  | succ n =>
    cases hchars : Nat.toDigits 10 (n + 1) with
    | nil => exact Nat.toDigits_ne_nil hchars
    | cons c chars =>
      have hmem : c ∈ Nat.toDigits 10 (n + 1) := hchars ▸ List.mem_cons_self
      have hrange := toNat_of_mem_toDigits hmem
      have hhead := head_toDigits n.succ_pos
      simp only [digitsOf, hchars, List.map_cons, List.cons.injEq] at hdigits
      have hzero : c = '0' := Char.toNat_inj.mp (by change c.toNat = 0x30; omega)
      rw [Nat.succ_eq_add_one, hchars, hzero] at hhead
      exact hhead rfl

theorem foldl_digitsOf (n : Nat) : (digitsOf n).foldl (fun m d => m * 10 + d) 0 = n := by
  have hvalue : Nat.ofDigitChars 10 (Nat.toDigits 10 n) 0 = n := Nat.ofDigitChars_ten_toDigits
  rw [digitsOf, List.foldl_map]
  simpa [Nat.ofDigitChars, Nat.mul_comm] using hvalue

/-! ## Bytes -/

theorem bytes_toString (n : Nat) :
    bytes (toString n) = (Nat.toDigits 10 n).map Char.toUInt8 := by
  have hascii : ∀ c ∈ Nat.toDigits 10 n, String.utf8EncodeChar c = [c.toUInt8] := by
    intro c hc
    have hrange := toNat_of_mem_toDigits hc
    exact utf8EncodeChar_of_ascii (by omega)
  rw [bytes_eq, Nat.toString_eq_repr, Nat.toList_repr, List.flatMap_congr hascii,
    List.map_eq_flatMap]

theorem isDigit_of_mem {n : Nat} {b : UInt8} (h : b ∈ bytes (toString n)) : isDigit b = true := by
  rw [bytes_toString] at h
  obtain ⟨c, hc, rfl⟩ := List.mem_map.mp h
  have hrange := toNat_of_mem_toDigits hc
  have hbyte : c.toUInt8.toNat = c.toNat := toNat_toUInt8_of_ascii (by omega)
  simp only [isDigit, Bool.and_eq_true, decide_eq_true_eq, UInt8.le_iff_toNat_le, hbyte]
  exact hrange

theorem bytes_toString_eq_cons (n : Nat) :
    ∃ b more, bytes (toString n) = b :: more ∧ isDigit b = true := by
  cases hbytes : bytes (toString n) with
  | nil =>
    rw [bytes_toString, List.map_eq_nil_iff] at hbytes
    exact absurd hbytes Nat.toDigits_ne_nil
  | cons b more => exact ⟨b, more, rfl, isDigit_of_mem (hbytes ▸ List.mem_cons_self)⟩

/-! ## Literals -/

/-- What follows a number and does not go on with it. -/
def EndsNumber (rest : List UInt8) : Prop :=
  ∀ b ∈ rest.head?, isDigit b = false ∧ b ≠ 0x2E ∧ b ≠ byte 'e' ∧ b ≠ byte 'E'

theorem takeDigits_append {n : Nat} {rest : List UInt8} (h : EndsNumber rest) :
    takeDigits (bytes (toString n) ++ rest) = (digitsOf n, rest) := by
  have hdigits : ∀ b ∈ bytes (toString n), isDigit b = true := fun _ => isDigit_of_mem
  have hnone : rest.takeWhile isDigit = [] ∧ rest.dropWhile isDigit = rest := by
    cases rest with
    | nil => exact ⟨rfl, rfl⟩
    | cons b rest =>
      obtain ⟨hb, -⟩ := h b rfl
      simp [hb]
  rw [takeDigits, List.takeWhile_append_of_pos hdigits, List.dropWhile_append_of_pos hdigits,
    hnone.1, hnone.2, List.append_nil, bytes_toString, List.map_map, digitsOf]
  congr 1
  apply List.map_congr_left
  intro c hc
  have hrange := toNat_of_mem_toDigits hc
  rw [Function.comp_apply, toNat_toUInt8_of_ascii (by omega)]

theorem readInteger_append {n : Nat} {rest : List UInt8} (h : EndsNumber rest) :
    readInteger (bytes (toString n) ++ rest) = .ok (digitsOf n, rest) := by
  have hread : readDigits (bytes (toString n) ++ rest) = .ok (digitsOf n, rest) := by
    unfold readDigits
    rw [takeDigits_append h]
    cases hdigits : digitsOf n with
    | nil => exact absurd (List.map_eq_nil_iff.mp hdigits) Nat.toDigits_ne_nil
    | cons => rfl
  simp only [readInteger, hread, bind, Except.bind]
  split
  · exact absurd ‹_› (digitsOf_ne_zero_cons n _ _)
  · rfl

theorem readFraction_of_ends {rest : List UInt8} (h : EndsNumber rest) :
    readFraction rest = .ok ([], rest) := by
  unfold readFraction
  split
  · exact absurd rfl (h _ rfl).2.1
  · rfl

theorem readExponent_of_ends {rest : List UInt8} (h : EndsNumber rest) :
    readExponent rest = .ok (none, rest) := by
  cases rest with
  | nil => rfl
  | cons b rest =>
    obtain ⟨-, -, hlower, hupper⟩ := h b rfl
    simp [readExponent, hlower, hupper]

theorem readLiteral_append {n : Nat} {rest : List UInt8} (h : EndsNumber rest) :
    readLiteral (bytes (toString n) ++ rest) = .ok (⟨false, digitsOf n, [], none⟩, rest) := by
  have hinteger := readInteger_append (n := n) h
  obtain ⟨b, more, hbytes, hb⟩ := bytes_toString_eq_cons n
  have hsign : b ≠ 0x2D := by
    rintro rfl
    exact absurd hb (by decide)
  rw [hbytes, List.cons_append] at hinteger ⊢
  unfold readLiteral
  split
  rename_i negative text hsplit
  split at hsplit
  · rename_i hhead
    exact absurd (List.cons.inj hhead).1 hsign
  · obtain ⟨rfl, rfl⟩ := Prod.mk.inj hsplit
    simp only [hinteger, bind, Except.bind, readFraction_of_ends h, readExponent_of_ends h]

/-! ## Values -/

theorem le_foldl_digits (n : Nat) (digits : List Nat) :
    n ≤ digits.foldl (fun m d => m * 10 + d) n := by
  induction digits generalizing n with
  | nil => exact Nat.le_refl n
  | cons d digits ih => exact (by omega : n ≤ n * 10 + d).trans (ih (n * 10 + d))

theorem collect_of_fits {n : Nat} {digits : List Nat}
    (h : digits.foldl (fun m d => m * 10 + d) n < UInt64.size) :
    collect n digits = (digits.foldl (fun m d => m * 10 + d) n, []) := by
  induction digits generalizing n with
  | nil => rfl
  | cons d digits ih =>
    have hfirst := (le_foldl_digits (n * 10 + d) digits).trans_lt h
    rw [collect, if_pos hfirst, ih h, List.foldl_cons]

theorem value_digitsOf {n : Nat} (h : n < UInt64.size) :
    (⟨false, digitsOf n, [], none⟩ : Literal).value = .ok (.whole n) := by
  have hcollect : collect 0 (digitsOf n) = (n, []) := by
    have hfold := foldl_digitsOf n
    rw [collect_of_fits (by rwa [hfold]), hfold]
  simp [Literal.value, hcollect, Literal.isWhole]

theorem readWhole_append {n : Nat} (hfits : n < UInt64.size) {rest : List UInt8}
    (h : EndsNumber rest) : readWhole (bytes (toString n) ++ rest) = .ok (n, rest) := by
  have hstarts : startsNumber (bytes (toString n) ++ rest) = true := by
    obtain ⟨b, more, hbytes, hb⟩ := bytes_toString_eq_cons n
    rw [hbytes]
    simp [startsNumber, hb]
  simp only [readWhole, hstarts, if_true, readNumber, readLiteral_append h, value_digitsOf hfits,
    bind, Except.bind]

end LfuCache.Json
