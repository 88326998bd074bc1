import Mathlib
import LfuCache.Text.Ascii

/-!
# Text and its bytes, there and back

A text is told by its bytes, and its bytes are always a text. A character of ASCII is one byte,
and any other character has no byte that could be one of ASCII.
-/

namespace LfuCache.Text

theorem toList_loop (b : ByteArray) (i : Nat) (read : List UInt8) :
    ByteArray.toList.loop b i read = read.reverse ++ b.data.toList.drop i := by
  induction hleft : b.size - i generalizing i read with
  | zero =>
    have hend : ¬i < b.size := by omega
    have hrest : b.data.toList.drop i = [] := by
      rw [List.drop_eq_nil_iff]
      exact not_lt.mp hend
    rw [ByteArray.toList.loop, if_neg hend, hrest, List.append_nil]
  | succ left ih =>
    have hi : i < b.size := by omega
    have hbyte : b.data.toList.drop i = b.get! i :: b.data.toList.drop (i + 1) := by
      rw [List.drop_eq_getElem_cons (by simpa using hi)]
      congr 1
      exact (getElem!_pos b.data i hi).symm
    rw [ByteArray.toList.loop, if_pos hi, ih (i + 1) (b.get! i :: read) (by omega), hbyte]
    simp

theorem toList_eq (b : ByteArray) : b.toList = b.data.toList := by
  rw [ByteArray.toList, toList_loop]
  simp

theorem bytes_injective : Function.Injective bytes := by
  intro s t hbytes
  rw [bytes, bytes, toList_eq, toList_eq] at hbytes
  exact String.toByteArray_inj.mp (ByteArray.ext (Array.ext' hbytes))

theorem length_bytes (s : String) : (bytes s).length = s.utf8ByteSize := by
  rw [bytes, toList_eq]
  rfl

theorem fromUTF8?_toUTF8 (s : String) : String.fromUTF8? s.toUTF8 = some s := by
  rw [String.toUTF8_eq_toByteArray, String.fromUTF8?, dif_pos s.isValidUTF8]
  rfl

theorem string?_eq_some_iff {text : List UInt8} {s : String} :
    string? text = some s ↔ text = bytes s := by
  have hbytes : (⟨(bytes s).toArray⟩ : ByteArray) = s.toUTF8 := by
    rw [bytes, toList_eq, Array.toArray_toList]
  constructor
  · intro htext
    rw [string?, String.fromUTF8?] at htext
    split at htext
    · have hdata := congrArg (fun t : String => t.toByteArray.data.toList) (Option.some.inj htext)
      rw [bytes, toList_eq]
      exact hdata
    · exact absurd htext (by simp)
  · rintro rfl
    rw [string?, hbytes]
    exact fromUTF8?_toUTF8 s

/-! ## Characters -/

theorem bytes_eq (s : String) : bytes s = s.toList.flatMap String.utf8EncodeChar := by
  rw [bytes, toList_eq, String.toUTF8_eq_toByteArray, ← String.utf8Encode_toList, List.utf8Encode,
    List.toList_data_toByteArray]

@[simp]
theorem bytes_append (s t : String) : bytes (s ++ t) = bytes s ++ bytes t := by
  simp only [bytes_eq, String.toList_append, List.flatMap_append]

theorem bytes_singleton (c : Char) : bytes (String.singleton c) = String.utf8EncodeChar c := by
  simp [bytes_eq]

theorem bytes_join (parts : List String) : bytes (String.join parts) = parts.flatMap bytes := by
  induction parts with
  | nil => simp [bytes_eq]
  | cons part parts ih => rw [String.join_cons, bytes_append, ih, List.flatMap_cons]

theorem utf8EncodeChar_of_ascii {c : Char} (h : c.toNat < 0x80) :
    String.utf8EncodeChar c = [c.toUInt8] := by
  have hle : c.val.toNat ≤ 127 := Nat.le_of_lt_succ h
  rw [String.utf8EncodeChar, if_pos hle]
  rfl

theorem le_of_mem_utf8EncodeChar {c : Char} (h : 0x80 ≤ c.toNat) :
    ∀ b ∈ String.utf8EncodeChar c, 0x80 ≤ b := by
  have hmore : ¬c.val.toNat ≤ 127 := Nat.not_le_of_lt h
  have hbyte : ∀ n, 0x80 ≤ n → n < 0x100 → 0x80 ≤ UInt8.ofNat n := by
    intro n hlow hhigh
    rw [UInt8.le_iff_toNat_le, UInt8.toNat_ofNat_of_lt' hhigh]
    exact hlow
  rw [String.utf8EncodeChar, if_neg hmore]
  split
  · simp only [List.forall_mem_cons, List.not_mem_nil, false_imp_iff, implies_true, and_true]
    exact ⟨hbyte _ (by omega) (by omega), hbyte _ (by omega) (by omega)⟩
  split
  · simp only [List.forall_mem_cons, List.not_mem_nil, false_imp_iff, implies_true, and_true]
    exact ⟨hbyte _ (by omega) (by omega), hbyte _ (by omega) (by omega),
      hbyte _ (by omega) (by omega)⟩
  · simp only [List.forall_mem_cons, List.not_mem_nil, false_imp_iff, implies_true, and_true]
    exact ⟨hbyte _ (by omega) (by omega), hbyte _ (by omega) (by omega),
      hbyte _ (by omega) (by omega), hbyte _ (by omega) (by omega)⟩

theorem toNat_toUInt8_of_ascii {c : Char} (h : c.toNat < 0x80) : c.toUInt8.toNat = c.toNat :=
  Nat.mod_eq_of_lt (h.trans (by decide))

theorem eq_of_toUInt8_eq {c d : Char} (hc : c.toNat < 0x80) (hd : d.toNat < 0x80)
    (h : c.toUInt8 = d.toUInt8) : c = d := by
  rw [← UInt8.toNat_inj, toNat_toUInt8_of_ascii hc, toNat_toUInt8_of_ascii hd] at h
  exact Char.toNat_inj.mp h

theorem mem_bytes_of_ascii {c : Char} (h : c.toNat < 0x80) {s : String} :
    c.toUInt8 ∈ bytes s ↔ c ∈ s.toList := by
  rw [bytes_eq, List.mem_flatMap]
  constructor
  · rintro ⟨d, hd, hbyte⟩
    by_cases hascii : d.toNat < 0x80
    · rw [utf8EncodeChar_of_ascii hascii, List.mem_singleton] at hbyte
      rwa [eq_of_toUInt8_eq h hascii hbyte]
    · have hle := le_of_mem_utf8EncodeChar (Nat.le_of_not_lt hascii) _ hbyte
      rw [UInt8.le_iff_toNat_le, toNat_toUInt8_of_ascii h] at hle
      exact absurd hle (Nat.not_le_of_lt h)
  · intro hc
    exact ⟨c, hc, by rw [utf8EncodeChar_of_ascii h, List.mem_singleton]⟩

theorem string?_ne_empty {text : List UInt8} (htext : text ≠ []) : string? text ≠ some "" := by
  intro hempty
  rw [string?, String.fromUTF8?] at hempty
  split at hempty
  · have hbytes : (⟨text.toArray⟩ : ByteArray) = "".toByteArray :=
      congrArg String.toByteArray (Option.some.inj hempty)
    have hdata := congrArg (fun b : ByteArray => b.data.toList) hbytes
    exact htext (by simpa using hdata)
  · exact absurd hempty (by simp)

end LfuCache.Text
