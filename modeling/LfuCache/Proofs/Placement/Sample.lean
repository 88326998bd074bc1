import Mathlib
import LfuCache.Proofs.Placement.Index

/-!
# Samples

A sample leaves out the excluded keys and holds no key that is not placed. It is empty if
nothing else is left, and also if main is large and each of its draws meets an excluded key.
-/

namespace LfuCache.Placement

/-- Only the generator has moved on. -/
def AfterDraws (p q : Placement) : Prop := ∃ random, q = { p with random }

theorem AfterDraws.refl (p : Placement) : AfterDraws p p := ⟨p.random, rfl⟩

theorem AfterDraws.trans {p q r : Placement} (hpq : AfterDraws p q) (hqr : AfterDraws q r) :
    AfterDraws p r := by
  obtain ⟨random, rfl⟩ := hpq
  obtain ⟨random', rfl⟩ := hqr
  exact ⟨random', rfl⟩

theorem afterDraws_sample (p : Placement) (exclude : List Key) :
    AfterDraws p (p.sample exclude).2 := ⟨_, rfl⟩

/-! ## Draws from main -/

/-- The indexes that so many draws give. -/
def drawIndexes (n : Nat) (h : 0 < n) : Nat → Generator → List (Fin n)
  | 0, _ => []
  | draws + 1, random => (random.below n h).1 :: drawIndexes n h draws (random.below n h).2

section Draws

variable {main : Array Key} {nonempty : 0 < main.size} {wanted : Nat} {exclude : List Key}

/-- A draw picks a key that is new and not excluded, while more are wanted. What every such
step keeps, all draws keep. -/
theorem drawMain_keep {P : List Key → Prop}
    (hstep : ∀ picked, ∀ key ∈ main, picked.length < wanted → key ∉ exclude → key ∉ picked →
      P picked → P (picked ++ [key]))
    {draws : Nat} {picked : List Key} {random : Generator} (h : P picked) :
    P (drawMain main nonempty wanted exclude draws picked random).1 := by
  induction draws generalizing picked random with
  | zero => exact h
  | succ draws ih =>
    unfold drawMain
    split
    · rename_i hmore
      apply ih
      split
      · exact h
      · rename_i hnew
        simp only [not_or] at hnew
        exact hstep picked _ (Array.getElem_mem _) hmore hnew.1 hnew.2 h
    · exact h

theorem drawMain_mem {draws : Nat} {picked : List Key} {random : Generator}
    (hpicked : ∀ key ∈ picked, key ∈ main ∧ key ∉ exclude) :
    ∀ key ∈ (drawMain main nonempty wanted exclude draws picked random).1,
      key ∈ main ∧ key ∉ exclude := by
  apply drawMain_keep (P := fun picked => ∀ key ∈ picked, key ∈ main ∧ key ∉ exclude) _ hpicked
  intro picked key hmain _ hout _ hall other hother
  rw [List.mem_append, List.mem_singleton] at hother
  rcases hother with hother | rfl
  · exact hall other hother
  · exact ⟨hmain, hout⟩

theorem drawMain_eq_nil_iff {draws : Nat} {picked : List Key} {random : Generator}
    (hwanted : 0 < wanted) :
    (drawMain main nonempty wanted exclude draws picked random).1 = [] ↔
      picked = [] ∧ ∀ i ∈ drawIndexes main.size nonempty draws random, main[i] ∈ exclude := by
  induction draws generalizing picked random with
  | zero => simp [drawMain, drawIndexes]
  | succ draws ih =>
    unfold drawMain drawIndexes
    split
    · rw [ih, List.forall_mem_cons]
      simp only [Fin.getElem_fin]
      split
      · rename_i hold
        rcases hold with hex | hpicked
        · simp [hex]
        · have hne : picked ≠ [] := List.ne_nil_of_mem hpicked
          simp [hne]
      · rename_i hnew
        simp only [not_or] at hnew
        simp [hnew.1]
    · have hne : picked ≠ [] := by
        rintro rfl
        simp_all
      simp [hne]

end Draws

/-- What the draws of one sample give. -/
def mainDraws (p : Placement) : List (Fin p.main.size) :=
  if h : 0 < p.main.size then
    drawIndexes p.main.size h (p.sampleSize * drawsPerKey) p.random
  else []

theorem mem_sampleMain {p : Placement} {exclude : List Key} {key : Key}
    (h : key ∈ (p.sampleMain exclude).1) : key ∈ p.keysIn .main ∧ key ∉ exclude := by
  unfold sampleMain at h
  split at h
  · simpa [keysIn] using List.mem_of_mem_take h
  · simpa [keysIn] using drawMain_mem (by simp) key h

theorem sampleMain_eq_nil_iff {p : Placement} (hsize : 0 < p.sampleSize) (exclude : List Key) :
    (p.sampleMain exclude).1 = [] ↔
      if p.main.size ≤ p.sampleSize + exclude.length then ∀ key ∈ p.keysIn .main, key ∈ exclude
      else ∀ i ∈ p.mainDraws, p.main[i] ∈ exclude := by
  unfold sampleMain
  split
  · have hne : p.sampleSize ≠ 0 := by omega
    simp [hne, keysIn]
  · have hpos : 0 < p.main.size := by omega
    rw [drawMain_eq_nil_iff hsize, mainDraws, dif_pos hpos]
    simp

/-! ## The oldest of the window -/

theorem mem_oldestWindow {p : Placement} {exclude : List Key} {key : Key}
    (h : key ∈ p.oldestWindow exclude) : key ∈ p.keysIn .window ∧ key ∉ exclude := by
  have hfound : p.window.values.find? (fun key => key ∉ exclude) = some key := h
  exact ⟨List.mem_of_find?_eq_some hfound, by simpa using List.find?_some hfound⟩

theorem oldestWindow_eq_none_iff (p : Placement) (exclude : List Key) :
    p.oldestWindow exclude = none ↔ ∀ key ∈ p.keysIn .window, key ∈ exclude := by
  simp [oldestWindow, keysIn]

/-! ## The whole sample -/

theorem mem_sample {p : Placement} {exclude : List Key} {key : Key}
    (h : key ∈ (p.sample exclude).1) :
    (∃ segment, key ∈ p.keysIn segment) ∧ key ∉ exclude := by
  simp only [sample, List.mem_append, Option.mem_toList] at h
  rcases h with h | h
  · exact ⟨⟨.main, (mem_sampleMain h).1⟩, (mem_sampleMain h).2⟩
  · exact ⟨⟨.window, (mem_oldestWindow h).1⟩, (mem_oldestWindow h).2⟩

theorem sample_eq_nil_iff {p : Placement} (hsize : 0 < p.sampleSize) (exclude : List Key) :
    (p.sample exclude).1 = [] ↔
      (∀ key ∈ p.keysIn .window, key ∈ exclude) ∧
        if p.main.size ≤ p.sampleSize + exclude.length then
          ∀ key ∈ p.keysIn .main, key ∈ exclude
        else ∀ i ∈ p.mainDraws, p.main[i] ∈ exclude := by
  rw [← oldestWindow_eq_none_iff, ← sampleMain_eq_nil_iff hsize]
  simp [sample, and_comm]

/-! ## Samples that miss -/

/-- The next sample is empty although keys are left. The window has no other key, main is too
large to be listed, and each draw meets an excluded key. -/
structure Misses (p : Placement) (exclude : List Key) : Prop where
  window : ∀ key ∈ p.keysIn .window, key ∈ exclude
  large : p.sampleSize + exclude.length < p.main.size
  drawn : ∀ i ∈ p.mainDraws, p.main[i] ∈ exclude

theorem sample_nil_iff_misses {p : Placement} (hsize : 0 < p.sampleSize) {exclude : List Key}
    {key : Key} {segment : Segment} (hkey : key ∈ p.keysIn segment) (hleft : key ∉ exclude) :
    (p.sample exclude).1 = [] ↔ p.Misses exclude := by
  rw [sample_eq_nil_iff hsize]
  constructor
  · rintro ⟨hwindow, hmain⟩
    split at hmain
    · -- A small main is listed, and the key would be met.
      cases segment with
      | window => exact absurd (hwindow key hkey) hleft
      | main => exact absurd (hmain key hkey) hleft
    · exact ⟨hwindow, by omega, hmain⟩
  · rintro ⟨hwindow, hlarge, hdrawn⟩
    rw [if_neg (by omega)]
    exact ⟨hwindow, hdrawn⟩

end LfuCache.Placement
