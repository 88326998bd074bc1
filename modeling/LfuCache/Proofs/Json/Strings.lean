import Mathlib
import LfuCache.Json.Text
import LfuCache.Proofs.Text.Bytes
import LfuCache.Proofs.Text.Percent

/-!
# Strings in quotes, there and back

Every character is written so that it is read again: as an escape, or as the bytes that it has
anyway. So every string is read as it was, whatever follows its closing quote.
-/

namespace LfuCache.Json

open Text

/-! ## Characters without an escape -/

/-- A byte that is read as it is. -/
def IsPlain (b : UInt8) : Prop := b ≠ byte '"' ∧ b ≠ byte '\\' ∧ 0x20 ≤ b

theorem readBytes_cons_of_isPlain {b : UInt8} (h : IsPlain b) (done : ByteArray)
    (rest : List UInt8) : readBytes 0 done (b :: rest) = readBytes 0 (done.push b) rest := by
  obtain ⟨hquote, hslash, hlow⟩ := h
  rw [readBytes, if_neg hquote, if_neg hslash, if_neg (UInt8.not_lt.mpr hlow)]

theorem push_append_toByteArray (done : ByteArray) (b : UInt8) (text : List UInt8) :
    done.push b ++ text.toByteArray = done ++ (b :: text).toByteArray := by
  ext1
  simp

theorem readBytes_append_of_isPlain {text : List UInt8} (h : ∀ b ∈ text, IsPlain b)
    (done : ByteArray) (rest : List UInt8) :
    readBytes 0 done (text ++ rest) = readBytes 0 (done ++ text.toByteArray) rest := by
  induction text generalizing done with
  | nil => simp
  | cons b text ih =>
    obtain ⟨hb, htext⟩ := List.forall_mem_cons.mp h
    rw [List.cons_append, readBytes_cons_of_isPlain hb, ih htext, push_append_toByteArray]

theorem isPlain_of_mem {c : Char} (hlow : 0x20 ≤ c.toNat) (hquote : c ≠ '"')
    (hslash : c ≠ '\\') :
    ∀ b ∈ String.utf8EncodeChar c, IsPlain b := by
  intro b hb
  by_cases hascii : c.toNat < 0x80
  · rw [utf8EncodeChar_of_ascii hascii, List.mem_singleton] at hb
    subst hb
    refine ⟨?_, ?_, ?_⟩
    · exact fun heq => hquote (eq_of_toUInt8_eq hascii (by decide) heq)
    · exact fun heq => hslash (eq_of_toUInt8_eq hascii (by decide) heq)
    · rw [UInt8.le_iff_toNat_le, toNat_toUInt8_of_ascii hascii]
      exact hlow
  · have hle := le_of_mem_utf8EncodeChar (Nat.le_of_not_lt hascii) b hb
    refine ⟨?_, ?_, UInt8.le_trans (by decide) hle⟩
    · rintro rfl
      exact absurd hle (by decide)
    · rintro rfl
      exact absurd hle (by decide)

/-! ## Escapes -/

/-- The characters with a short escape, and the letters that stand for them. -/
def shortEscapes : List (Char × Char) :=
  [('"', '"'), ('\\', '\\'), ('\x08', 'b'), ('\x0C', 'f'), ('\n', 'n'), ('\r', 'r'), ('\t', 't')]

theorem escape_of_mem {c letter : Char} (h : (c, letter) ∈ shortEscapes) :
    bytes (escape c) = [byte '\\', byte letter] ∧ byte letter ≠ byte 'u' ∧
      shortEscape? (byte letter) = some c := by
  simp only [shortEscapes, List.mem_cons, List.not_mem_nil, or_false, Prod.mk.injEq] at h
  rcases h with ⟨rfl, rfl⟩ | ⟨rfl, rfl⟩ | ⟨rfl, rfl⟩ | ⟨rfl, rfl⟩ | ⟨rfl, rfl⟩ | ⟨rfl, rfl⟩ |
    ⟨rfl, rfl⟩ <;> exact ⟨by rw [bytes_eq]; decide, by decide, by decide⟩

theorem escape_of_notMem {c : Char} (h : ∀ letter, (c, letter) ∉ shortEscapes) :
    escape c = if c.toNat < 0x20 then controlEscape c else String.singleton c := by
  unfold escape
  split
  all_goals simp [shortEscapes] at h
  rfl

theorem readBytes_shortEscape {c letter : Char} (h : (c, letter) ∈ shortEscapes)
    (done : ByteArray) (rest : List UInt8) :
    readBytes 0 done (bytes (escape c) ++ rest) =
      readBytes 0 (done ++ (String.singleton c).toUTF8) rest := by
  obtain ⟨hbytes, hunit, hshort⟩ := escape_of_mem h
  rw [hbytes, List.cons_append, readBytes, if_neg (by decide), if_pos rfl]
  simp only [List.cons_append, List.nil_append, readEscape, if_neg hunit, hshort, readBytes]

theorem value?_digitChar : ∀ n < 16, Hex.value? (Nat.digitChar n).toUInt8 = some n := by decide

theorem bytes_controlEscape {c : Char} (h : c.toNat < 0x20) :
    bytes (controlEscape c) = [byte '\\', byte 'u', byte '0', byte '0',
      (Nat.digitChar (c.toNat / 16)).toUInt8, (Nat.digitChar (c.toNat % 16)).toUInt8] := by
  have hdigits : List.replicate (4 - (Nat.toDigits 16 c.toNat).length) '0' ++
      Nat.toDigits 16 c.toNat =
        ['0', '0', Nat.digitChar (c.toNat / 16), Nat.digitChar (c.toNat % 16)] := by
    by_cases hone : c.toNat < 16
    · have hhigh : c.toNat / 16 = 0 := by omega
      have hlow : c.toNat % 16 = c.toNat := by omega
      rw [Nat.toDigits_of_lt_base hone, hhigh, hlow]
      rfl
    · have htwo : Nat.toDigits 16 c.toNat =
          [Nat.digitChar (c.toNat / 16), Nat.digitChar (c.toNat % 16)] := by
        rw [Nat.toDigits_eq_if (by decide), if_neg hone, Nat.toDigits_of_lt_base (by omega)]
        rfl
      rw [htwo]
      rfl
  have hascii : ∀ n < 16, (Nat.digitChar n).toNat < 0x80 := by decide
  have hhigh := utf8EncodeChar_of_ascii (hascii (c.toNat / 16) (by omega))
  have hlow := utf8EncodeChar_of_ascii (hascii (c.toNat % 16) (by omega))
  have hstart : bytes "\\u" = [byte '\\', byte 'u'] := by rw [bytes_eq]; decide
  rw [controlEscape, hdigits, bytes_append, hstart, bytes_eq, String.toList_ofList]
  simp only [List.flatMap_cons, List.flatMap_nil, hhigh, hlow]
  rfl

theorem readBytes_controlEscape {c : Char} (h : c.toNat < 0x20) (done : ByteArray)
    (rest : List UInt8) :
    readBytes 0 done (bytes (controlEscape c) ++ rest) =
      readBytes 0 (done ++ (String.singleton c).toUTF8) rest := by
  have hhigh := value?_digitChar (c.toNat / 16) (by omega)
  have hlow := value?_digitChar (c.toNat % 16) (by omega)
  have hzero : Hex.value? (byte '0') = some 0 := by decide
  have hunit : ((0 * 16 + 0) * 16 + c.toNat / 16) * 16 + c.toNat % 16 = c.toNat := by omega
  have htrailing : isTrailing c.toNat = false := by simp [isTrailing]; omega
  have hleading : isLeading c.toNat = false := by simp [isLeading]; omega
  have hread : readCharacter (byte '0' :: byte '0' :: (Nat.digitChar (c.toNat / 16)).toUInt8 ::
      (Nat.digitChar (c.toNat % 16)).toUInt8 :: rest) = .ok (c, 4) := by
    simp only [readCharacter, readUnit, hzero, hhigh, hlow, hunit]
    simp [Except.bind, bind, htrailing, hleading]
  rw [bytes_controlEscape h]
  simp only [List.cons_append, List.nil_append]
  rw [readBytes, if_neg (by decide), if_pos rfl]
  simp only [readEscape, if_true, hread, readBytes]

theorem readBytes_escape (c : Char) (done : ByteArray) (rest : List UInt8) :
    readBytes 0 done (bytes (escape c) ++ rest) =
      readBytes 0 (done ++ (String.singleton c).toUTF8) rest := by
  by_cases hshort : ∃ letter, (c, letter) ∈ shortEscapes
  · obtain ⟨letter, hletter⟩ := hshort
    exact readBytes_shortEscape hletter done rest
  · rw [not_exists] at hshort
    rw [escape_of_notMem hshort]
    split
    · exact readBytes_controlEscape ‹_› done rest
    · have hquote : c ≠ '"' := by
        rintro rfl
        exact hshort '"' (by decide)
      have hslash : c ≠ '\\' := by
        rintro rfl
        exact hshort '\\' (by decide)
      rw [bytes_singleton,
        readBytes_append_of_isPlain (isPlain_of_mem (by omega) hquote hslash)]
      simp [List.utf8Encode]

/-! ## Strings -/

/-- What stands between the quotes of a string. -/
def body (s : String) : List UInt8 := (s.toList.map escape).flatMap bytes

theorem bytes_quote (s : String) : bytes (quote s) = byte '"' :: body s ++ [byte '"'] := by
  rw [quote, bytes_append, bytes_append, bytes_join, body]
  have hquote : bytes "\"" = [byte '"'] := by rw [bytes_eq]; decide
  rw [hquote]
  rfl

theorem readBytes_body (s : String) (done : ByteArray) (rest : List UInt8) :
    readBytes 0 done (body s ++ rest) = readBytes 0 (done ++ s.toUTF8) rest := by
  have hchars : ∀ (chars : List Char) (done : ByteArray),
      readBytes 0 done ((chars.map escape).flatMap bytes ++ rest) =
        readBytes 0 (done ++ (String.ofList chars).toUTF8) rest := by
    intro chars
    induction chars with
    | nil => simp
    | cons c chars ih =>
      intro done
      rw [List.map_cons, List.flatMap_cons, List.append_assoc, readBytes_escape, ih,
        String.ofList_cons]
      simp [ByteArray.append_assoc]
  have hall := hchars s.toList done
  rwa [String.ofList_toList] at hall

theorem readString_body (s : String) (rest : List UInt8) :
    readString (body s ++ byte '"' :: rest) = .ok (s, rest) := by
  simp only [readString, readBytes_body, readBytes, if_true, ByteArray.empty_append, bind,
    Except.bind, fromUTF8?_toUTF8]

end LfuCache.Json
