import Mathlib
import LfuCache.Text.Percent

/-!
# Percent encoding, there and back

What is encoded is decoded again, as long as the percent sign itself is unsafe. An encoded text
has a slash only where a slash is safe. Nothing that is there is decoded to nothing.
-/

namespace LfuCache.Text

theorem Hex.value?_digit : ∀ n < 16, Hex.value? (Hex.digit n) = some n := by decide

theorem Hex.digit_ne_slash : ∀ n < 16, Hex.digit n ≠ 0x2F := by decide

namespace Percent

variable {isSafe : UInt8 → Bool}

theorem halves_lt (b : UInt8) : b.toNat / 16 < 16 ∧ b.toNat % 16 < 16 := by
  have hb : b.toNat < 256 := b.toNat_lt
  omega

@[simp]
theorem encode_nil : encode isSafe [] = [] := rfl

theorem encode_cons_of_safe {b : UInt8} (h : isSafe b = true) (text : List UInt8) :
    encode isSafe (b :: text) = b :: encode isSafe text := by
  rw [encode, List.flatMap_cons, if_pos h]
  rfl

theorem encode_cons_of_escaped {b : UInt8} (h : isSafe b = false) (text : List UInt8) :
    encode isSafe (b :: text) = encodeByte b ++ encode isSafe text := by
  rw [encode, List.flatMap_cons, if_neg (by simp [h])]
  rfl

theorem encode_of_safe {text : List UInt8} (h : ∀ b ∈ text, isSafe b = true) :
    encode isSafe text = text := by
  induction text with
  | nil => rfl
  | cons b text ih =>
    obtain ⟨hb, htext⟩ := List.forall_mem_cons.mp h
    rw [encode_cons_of_safe hb, ih htext]

theorem encode_ne_nil {text : List UInt8} (h : text ≠ []) : encode isSafe text ≠ [] := by
  cases text with
  | nil => exact absurd rfl h
  | cons b text =>
    cases hb : isSafe b with
    | true => simp [encode_cons_of_safe hb]
    | false => simp [encode_cons_of_escaped hb, encodeByte]

theorem slash_notMem_encode (h : isSafe 0x2F = false) (text : List UInt8) :
    0x2F ∉ encode isSafe text := by
  induction text with
  | nil => simp
  | cons b text ih =>
    cases hb : isSafe b with
    | true =>
      have hne : b ≠ 0x2F := by
        rintro rfl
        simp [h] at hb
      rw [encode_cons_of_safe hb]
      simp [Ne.symm hne, ih]
    | false =>
      obtain ⟨hhigh, hlow⟩ := halves_lt b
      rw [encode_cons_of_escaped hb]
      simp [encodeByte, ih, Ne.symm (Hex.digit_ne_slash _ hhigh),
        Ne.symm (Hex.digit_ne_slash _ hlow)]

/-! ## Decoding -/

theorem decode_cons_of_ne {a : UInt8} (h : a ≠ 0x25) (text : List UInt8) :
    decode (a :: text) = a :: decode text := by
  match text with
  | [] => rfl
  | [b] => rfl
  | b :: c :: rest => rw [decode, if_neg h]

theorem decode_encodeByte (b : UInt8) (text : List UInt8) :
    decode (encodeByte b ++ text) = b :: decode text := by
  obtain ⟨hhigh, hlow⟩ := halves_lt b
  have hb : b.toNat / 16 * 16 + b.toNat % 16 = b.toNat := by omega
  simp only [encodeByte, List.cons_append, List.nil_append, decode, if_true,
    Hex.value?_digit _ hhigh, Hex.value?_digit _ hlow, hb]
  rw [Nat.toUInt8, UInt8.ofNat_toNat]

theorem decode_encode (h : isSafe 0x25 = false) (text : List UInt8) :
    decode (encode isSafe text) = text := by
  induction text with
  | nil => rfl
  | cons b text ih =>
    cases hb : isSafe b with
    | true =>
      have hne : b ≠ 0x25 := by
        rintro rfl
        simp [h] at hb
      rw [encode_cons_of_safe hb, decode_cons_of_ne hne, ih]
    | false => rw [encode_cons_of_escaped hb, decode_encodeByte, ih]

theorem decode_ne_nil {text : List UInt8} (htext : text ≠ []) :
    decode text ≠ [] := by
  unfold decode
  split
  · exact absurd rfl htext
  · simp
  · simp
  · split
    · split <;> simp
    · simp

end Percent

end LfuCache.Text
