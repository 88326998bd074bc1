import Mathlib
import LfuCache.Net.Url
import LfuCache.Proofs.Text.Bytes
import LfuCache.Proofs.Text.Percent

/-!
# Segments that are added to a URL

A text is added as one segment that decodes to it, with two exceptions. One dot or two add
nothing, and a tab or an end of line is lost.
-/

namespace LfuCache.Net.Url

open Text

/-! ## Encoded segments -/

theorem segmentSafe_dot (scheme : List UInt8) : segmentSafe scheme 0x2E = true := by
  unfold segmentSafe isSafe isOneOf
  rw [bytes_eq]
  split <;> decide +kernel

theorem segmentSafe_percent (scheme : List UInt8) : segmentSafe scheme 0x25 = false := by
  unfold segmentSafe isSafe isOneOf
  rw [bytes_eq]
  split <;> decide +kernel

theorem segmentSafe_slash (scheme : List UInt8) : segmentSafe scheme 0x2F = false := by
  unfold segmentSafe isSafe isOneOf
  rw [bytes_eq]
  split <;> decide +kernel

theorem segmentSafe_of_isAlpha (scheme : List UInt8) {b : UInt8} (h : isAlpha b = true) :
    segmentSafe scheme b = true := by
  have hall : ∀ n < 256, isAlpha (UInt8.ofNat n) = true →
      segmentSafe scheme (UInt8.ofNat n) = true := by
    unfold segmentSafe isSafe isOneOf
    rw [bytes_eq]
    split <;> decide +kernel
  have hb := hall b.toNat b.toNat_lt
  rw [UInt8.ofNat_toNat] at hb
  exact hb h

theorem eq_two_of_digit : ∀ n < 16, Hex.digit n = 0x32 → n = 2 := by decide

theorem eq_fourteen_of_digit : ∀ n < 16, lower (Hex.digit n) = 0x65 → n = 14 := by decide

theorem dots_encode {isSafe : UInt8 → Bool} (hdot : isSafe 0x2E = true)
    (hpercent : isSafe 0x25 = false) (text : List UInt8) :
    dots (Percent.encode isSafe text) =
      if ∀ b ∈ text, b = 0x2E then some text.length else none := by
  induction text with
  | nil => simp [dots]
  | cons b text ih =>
    cases hb : isSafe b with
    | true =>
      rw [Percent.encode_cons_of_safe hb]
      by_cases hsame : b = 0x2E
      · subst hsame
        rw [dots, ih]
        simp only [List.forall_mem_cons, true_and]
        split <;> simp
      · have hne : b ≠ 0x25 := by
          rintro rfl
          simp [hpercent] at hb
        unfold dots
        split <;> simp_all
    | false =>
      have hne : b ≠ 0x2E := by
        rintro rfl
        simp [hdot] at hb
      obtain ⟨hhigh, hlow⟩ := Percent.halves_lt b
      -- The escape of a dot would be needed for a dot, and that is safe.
      have hdigits : ¬(Hex.digit (b.toNat / 16) = 0x32 ∧
          lower (Hex.digit (b.toNat % 16)) = 0x65) := by
        rintro ⟨htwo, he⟩
        have hfirst := eq_two_of_digit _ hhigh htwo
        have hsecond := eq_fourteen_of_digit _ hlow he
        apply hne
        rw [← UInt8.toNat_inj]
        change b.toNat = 46
        omega
      rw [Percent.encode_cons_of_escaped hb, Percent.encodeByte, if_neg (by simp [hne])]
      unfold dots
      split <;> simp_all

/-! ## Lost bytes -/

/-- What is left of a text when it is added to a path. -/
def keptOf (text : String) : List UInt8 := (bytes text).filter fun b => !isDropped b

/-- A text that is added to a path as it is. Two texts of dots are steps, and three characters
are lost. -/
def Addressable (text : String) : Prop :=
  text ≠ "." ∧ text ≠ ".." ∧ ∀ c ∈ ['\t', '\n', '\r'], c ∉ text.toList

instance (text : String) : Decidable (Addressable text) := inferInstanceAs (Decidable (_ ∧ _))

theorem keptOf_eq_iff {text : String} :
    keptOf text = bytes text ↔ ∀ c ∈ ['\t', '\n', '\r'], c ∉ text.toList := by
  have hlost : ∀ b, isDropped b = true ↔ ∃ c ∈ ['\t', '\n', '\r'], b = c.toUInt8 := by
    intro b
    simp only [isDropped, Bool.or_eq_true, beq_iff_eq, List.mem_cons, List.not_mem_nil, or_false,
      exists_eq_or_imp, exists_eq_left, or_assoc]
    exact Iff.rfl
  have hascii : ∀ c ∈ ['\t', '\n', '\r'], c.toNat < 0x80 := by simp
  rw [keptOf, List.filter_eq_self]
  constructor
  · intro hall c hc hmem
    have hb := hall _ ((mem_bytes_of_ascii (hascii c hc)).mpr hmem)
    rw [(hlost _).mpr ⟨c, hc, rfl⟩] at hb
    exact absurd hb (by simp)
  · intro hnone b hb
    rw [Bool.not_eq_true', Bool.eq_false_iff]
    intro hdropped
    obtain ⟨c, hc, rfl⟩ := (hlost b).mp hdropped
    exact hnone c hc ((mem_bytes_of_ascii (hascii c hc)).mp hb)

/-! ## One segment -/

/-- The path that a segment is added to. A slash alone starts anew. -/
def front (u : Url) : List (List UInt8) := if u.segments = [[]] then [] else u.segments

variable {u : Url} {text : String} {scheme : List UInt8}

theorem push_eq (hfile : isFile u.scheme = false) (hdot : text ≠ ".") (hdots : text ≠ "..") :
    u.push text = { u with
      segments := addSegment u.scheme u.front
        (Percent.encode (segmentSafe u.scheme) (keptOf text)) true } := by
  rw [push, if_neg (by simp [hdot, hdots])]
  simp only [trim, hfile, Bool.false_eq_true, if_false]
  rfl

theorem eq_replicate_of_dots {kept : List UInt8} {n : Nat}
    (h : dots (Percent.encode (segmentSafe scheme) kept) = some n) :
    kept = List.replicate n 0x2E := by
  rw [dots_encode (segmentSafe_dot scheme) (segmentSafe_percent scheme)] at h
  split at h
  · rename_i hall
    exact List.eq_replicate_iff.mpr ⟨Option.some.inj h, hall⟩
  · exact absurd h (by simp)

theorem push_of_addressable (hfile : isFile u.scheme = false) (h : Addressable text) :
    u.push text = { u with
      segments := u.front ++ [Percent.encode (segmentSafe u.scheme) (bytes text)] } := by
  obtain ⟨hdot, hdots, hlost⟩ := h
  have hone : bytes text ≠ List.replicate 1 0x2E := by
    intro heq
    exact hdot (bytes_injective (heq.trans (by rw [bytes_eq]; decide)))
  have htwo : bytes text ≠ List.replicate 2 0x2E := by
    intro heq
    exact hdots (bytes_injective (heq.trans (by rw [bytes_eq]; decide)))
  rw [push_eq hfile hdot hdots, keptOf_eq_iff.mpr hlost]
  simp only [addSegment]
  split
  · exact absurd (eq_replicate_of_dots ‹_›) hone
  · exact absurd (eq_replicate_of_dots ‹_›) htwo
  · rw [hfile]
    rfl

/-- A text that loses bytes is added as no segment that decodes to it. -/
theorem push_of_lost (hfile : isFile u.scheme = false) (hdot : text ≠ ".") (hdots : text ≠ "..")
    (hlost : keptOf text ≠ bytes text) :
    ∃ path last, (u.push text).segments = path ++ [last] ∧
      (last = [] ∨ Percent.decode last ≠ bytes text) := by
  rw [push_eq hfile hdot hdots]
  simp only [addSegment]
  split
  · exact ⟨u.front, [], by simp, .inl rfl⟩
  · exact ⟨goBack u.front, [], by simp, .inl rfl⟩
  · refine ⟨u.front, _, by rw [hfile]; rfl, .inr ?_⟩
    rwa [Percent.decode_encode (segmentSafe_percent u.scheme)]

end LfuCache.Net.Url
