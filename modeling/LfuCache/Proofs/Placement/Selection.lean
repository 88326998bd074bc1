import Mathlib
import LfuCache.Proofs.Placement.History

/-!
# What a sample selects

A sample has no key twice. It takes a few keys of main, and after them the oldest key of the
window that is not excluded. An empty sample should mean that nothing is left, and it does
unless all draws miss.
-/

namespace LfuCache

/-- The generator once so many numbers below `n` are drawn. -/
def Generator.past (n : Nat) (h : 0 < n) (draws : Nat) (random : Generator) : Generator :=
  (fun g => (g.below n h).2)^[draws] random

namespace Placement

/-- The indexes lead to the keys, and no key stands in both segments. -/
structure Coherent (p : Placement) : Prop where
  indexed : p.Indexed
  disjoint : (p.keysIn .window).Disjoint (p.keysIn .main)

theorem coherent_after (windowCapacity sampleSize : Nat) (random : Generator)
    (calls : List PlacementCall)
    (hnew : (empty windowCapacity sampleSize random).InsertsNewAlong calls) :
    ((empty windowCapacity sampleSize random).after calls).Coherent := by
  have h := recalls_after windowCapacity sampleSize random calls hnew
  exact ⟨h.indexed, h.disjoint⟩

/-! ## Draws from main -/

section Draws

variable {main : Array Key} {nonempty : 0 < main.size} {wanted : Nat} {exclude : List Key}

theorem nodup_drawMain {draws : Nat} {picked : List Key} {random : Generator}
    (h : picked.Nodup) : (drawMain main nonempty wanted exclude draws picked random).1.Nodup := by
  apply drawMain_keep _ h
  intro picked key _ _ _ hnew hnodup
  exact List.nodup_append_comm.mp (List.nodup_cons.mpr ⟨hnew, hnodup⟩)

theorem length_drawMain_le {draws : Nat} {picked : List Key} {random : Generator}
    (h : picked.length ≤ wanted) :
    (drawMain main nonempty wanted exclude draws picked random).1.length ≤ wanted := by
  apply drawMain_keep (P := fun picked => picked.length ≤ wanted) _ h
  intro picked key _ hmore _ _ _
  rw [List.length_append, List.length_singleton]
  exact hmore

theorem random_drawMain (main : Array Key) (nonempty : 0 < main.size) (wanted : Nat)
    (exclude : List Key) (draws : Nat) (picked : List Key) (random : Generator) :
    ∃ made ≤ draws, (drawMain main nonempty wanted exclude draws picked random).2 =
      random.past main.size nonempty made := by
  induction draws generalizing picked random with
  | zero => exact ⟨0, Nat.le_refl _, rfl⟩
  | succ draws ih =>
    unfold drawMain
    split
    · obtain ⟨made, hmade, hrandom⟩ := ih _ (random.below main.size nonempty).2
      exact ⟨made + 1, Nat.succ_le_succ hmade, hrandom⟩
    · exact ⟨0, Nat.zero_le _, rfl⟩

end Draws

theorem nodup_sampleMain {p : Placement} (h : p.Indexed) (exclude : List Key) :
    (p.sampleMain exclude).1.Nodup := by
  unfold sampleMain
  split
  · exact ((h.nodup_keysIn .main).filter _).sublist (List.take_sublist _ _)
  · exact nodup_drawMain List.nodup_nil

theorem length_sampleMain_le (p : Placement) (exclude : List Key) :
    (p.sampleMain exclude).1.length ≤ p.sampleSize := by
  unfold sampleMain
  split
  · exact List.length_take_le _ _
  · exact length_drawMain_le (Nat.zero_le _)

/-! ## The oldest that is left -/

/-- A key of the window that is not excluded, and no other such key came before it. -/
def OldestLeft (p : Placement) (exclude : List Key) (key : Key) : Prop :=
  key ∉ exclude ∧ ∃ arrival, p.window[arrival]? = some key ∧
    ∀ (other : Key) (n : Nat), p.window[n]? = some other → other ∉ exclude → arrival ≤ n

theorem oldestLeft_of_oldestWindow {p : Placement} {exclude : List Key} {key : Key}
    (h : p.oldestWindow exclude = some key) : p.OldestLeft exclude key := by
  rw [oldestWindow, Map.values_eq, List.find?_map, Option.map_eq_some_iff] at h
  obtain ⟨⟨arrival, key⟩, hfound, rfl⟩ := h
  obtain ⟨hleft, earlier, later, hlist, hearlier⟩ := List.find?_eq_some_iff_append.mp hfound
  have hsorted := Std.TreeMap.ordered_keys_toList (t := p.window)
  have hget : p.window[arrival]? = some key := by
    rw [← Std.TreeMap.mem_toList_iff_getElem?_eq_some, hlist]
    simp
  refine ⟨by simpa using hleft, arrival, hget, ?_⟩
  intro other n hother hout
  rw [← Std.TreeMap.mem_toList_iff_getElem?_eq_some, hlist, List.mem_append,
    List.mem_cons] at hother
  rcases hother with hother | hother | hother
  · -- What comes earlier in the list is excluded.
    exact absurd (hearlier _ hother) (by simpa using hout)
  · exact (Prod.mk.inj hother).1.ge
  · rw [hlist, List.pairwise_append, List.pairwise_cons] at hsorted
    exact (Nat.compare_eq_lt.mp (hsorted.2.1.1 _ hother)).le

theorem OldestLeft.unique {p : Placement} {exclude : List Key} {key other : Key}
    (h : p.OldestLeft exclude key) (hother : p.OldestLeft exclude other) : key = other := by
  obtain ⟨hout, n, hget, hleast⟩ := h
  obtain ⟨hout', m, hget', hleast'⟩ := hother
  have hsame : n = m := Nat.le_antisymm (hleast other m hget' hout') (hleast' key n hget hout)
  rw [hsame, hget'] at hget
  exact (Option.some.inj hget).symm

theorem oldestWindow_eq_some_iff {p : Placement} {exclude : List Key} {key : Key} :
    p.oldestWindow exclude = some key ↔ p.OldestLeft exclude key := by
  refine ⟨oldestLeft_of_oldestWindow, fun h => ?_⟩
  cases hfound : p.oldestWindow exclude with
  | none =>
    obtain ⟨hout, arrival, hget, -⟩ := h
    rw [oldestWindow_eq_none_iff] at hfound
    exact absurd (hfound key (mem_keysIn_window.mpr ⟨arrival, hget⟩)) hout
  | some other => rw [(oldestLeft_of_oldestWindow hfound).unique h]

/-! ## Sound samples -/

/-- What a sample may be: the part from main, the part from the window, and the placement
after it. -/
structure SoundSample (p : Placement) (exclude fromMain fromWindow : List Key) (q : Placement) :
    Prop where
  nodup : (fromMain ++ fromWindow).Nodup
  main_left : ∀ key ∈ fromMain, key ∈ p.keysIn .main ∧ key ∉ exclude
  main_length : fromMain.length ≤ p.sampleSize
  window_left : ∀ key, key ∈ fromWindow ↔ p.OldestLeft exclude key
  window_length : fromWindow.length ≤ 1
  window_nil_iff : fromWindow = [] ↔ ∀ key ∈ p.keysIn .window, key ∈ exclude
  /-- A small main is listed in its order, and no number is drawn. -/
  listed : p.main.size ≤ p.sampleSize + exclude.length →
    fromMain = ((p.keysIn .main).filter fun key => key ∉ exclude).take p.sampleSize ∧ q = p
  /-- A large main is drawn from, and only the generator moves on. -/
  drawn : ∀ h : p.sampleSize + exclude.length < p.main.size,
    ∃ draws ≤ p.sampleSize * drawsPerKey,
      q = { p with random := p.random.past p.main.size (Nat.zero_lt_of_lt h) draws }

/-- Whatever is excluded, a sample is sound. -/
theorem sample_is_sound {p : Placement} (h : p.Coherent) (exclude : List Key) :
    ∃ fromMain fromWindow, (p.sample exclude).1 = fromMain ++ fromWindow ∧
      p.SoundSample exclude fromMain fromWindow (p.sample exclude).2 := by
  refine ⟨(p.sampleMain exclude).1, (p.oldestWindow exclude).toList, rfl, ?_⟩
  have hmain : ∀ key ∈ (p.sampleMain exclude).1, key ∈ p.keysIn .main ∧ key ∉ exclude :=
    fun _ hkey => mem_sampleMain hkey
  constructor
  case nodup =>
    have hone : (p.oldestWindow exclude).toList.Nodup := by
      cases p.oldestWindow exclude <;> simp
    refine (nodup_sampleMain h.indexed exclude).append hone ?_
    intro key hkey hold
    have hwindow := (mem_oldestWindow (Option.mem_toList.mp hold)).1
    exact h.disjoint hwindow (hmain key hkey).1
  case main_left => exact hmain
  case main_length => exact length_sampleMain_le p exclude
  case window_left =>
    intro key
    rw [Option.mem_toList, ← oldestWindow_eq_some_iff]
  case window_length => cases p.oldestWindow exclude <;> simp
  case window_nil_iff => rw [Option.toList_eq_nil_iff, oldestWindow_eq_none_iff]
  case listed =>
    intro hsmall
    simp only [sample, sampleMain, dif_pos hsmall, keysIn, true_and]
  case drawn =>
    intro hlarge
    obtain ⟨draws, hdraws, hrandom⟩ := random_drawMain p.main (Nat.zero_lt_of_lt hlarge)
      p.sampleSize exclude (p.sampleSize * drawsPerKey) [] p.random
    refine ⟨draws, hdraws, ?_⟩
    simp only [sample, sampleMain, dif_neg (not_le.mpr hlarge), hrandom]

/-- Three keys are excluded: the first of the window, the first of main and one that has no place.
Main is too large to be listed, so it is drawn from. -/
theorem sample_is_sound_between_segments :
    let p := (empty 3 2 (.ofSeed 7)).after
      [.insert [97] .window 1, .insert [98] .window 1, .insert [99] .main 1,
        .insert [100] .main 1, .insert [101] .main 1, .insert [102] .main 1,
        .insert [103] .main 1, .insert [104] .main 1]
    p.Coherent ∧ ∃ fromMain fromWindow,
      (p.sample [[97], [99], [120]]).1 = fromMain ++ fromWindow ∧
        p.SoundSample [[97], [99], [120]] fromMain fromWindow
          (p.sample [[97], [99], [120]]).2 :=
  have h := coherent_after 3 2 (.ofSeed 7) _ (by decide)
  ⟨h, sample_is_sound h [[97], [99], [120]]⟩

/-! ## Empty samples -/

/-- Every key that has a place is excluded. -/
def Exhausted (p : Placement) (exclude : List Key) : Prop :=
  ∀ segment, ∀ key ∈ p.keysIn segment, key ∈ exclude

/-- Main has a key that is not excluded, and the next sample meets none. -/
def Overlooks (p : Placement) (exclude : List Key) : Prop :=
  p.Misses exclude ∧ ∃ key ∈ p.keysIn .main, key ∉ exclude

theorem sample_nil_iff_exhausted_or_misses {p : Placement} (hsize : 0 < p.sampleSize)
    (exclude : List Key) :
    (p.sample exclude).1 = [] ↔ p.Exhausted exclude ∨ p.Misses exclude := by
  by_cases hleft : p.Exhausted exclude
  · refine iff_of_true ?_ (.inl hleft)
    rw [List.eq_nil_iff_forall_not_mem]
    intro key hkey
    obtain ⟨⟨segment, hplaced⟩, hout⟩ := mem_sample hkey
    exact hout (hleft segment key hplaced)
  · have hkey := hleft
    simp only [Exhausted, not_forall] at hkey
    obtain ⟨segment, key, hplaced, hout⟩ := hkey
    rw [sample_nil_iff_misses hsize hplaced hout]
    exact (or_iff_right hleft).symm

/-- An empty sample means that nothing is left, and the other way round, exactly if no key of
main is overlooked. -/
theorem empty_sample_means_exhausted_iff {p : Placement} (hsize : 0 < p.sampleSize)
    (exclude : List Key) :
    ((p.sample exclude).1 = [] ↔ p.Exhausted exclude) ↔ ¬p.Overlooks exclude := by
  rw [sample_nil_iff_exhausted_or_misses hsize]
  constructor
  · rintro hlaw ⟨hmisses, key, hkey, hout⟩
    exact hout (hlaw.mp (.inr hmisses) .main key hkey)
  · intro hseen
    refine ⟨?_, .inl⟩
    rintro (hleft | hmisses)
    · exact hleft
    · -- A miss finds nothing else in the window, so what is left is overlooked in main.
      intro segment key hkey
      by_contra hout
      cases segment with
      | window => exact hout (hmisses.window key hkey)
      | main => exact hseen ⟨hmisses, key, hkey, hout⟩

/-- Half of main is excluded, and so is the one key of the window. -/
theorem empty_sample_means_exhausted_iff_for_half_of_main :
    let p := (empty 3 2 (.ofSeed 7)).after
      [.insert [97] .window 1, .insert [98] .main 1, .insert [99] .main 1,
        .insert [100] .main 1, .insert [101] .main 1]
    0 < p.sampleSize ∧ (((p.sample [[97], [98], [99]]).1 = [] ↔ p.Exhausted [[97], [98], [99]]) ↔
      ¬p.Overlooks [[97], [98], [99]]) :=
  ⟨by decide, empty_sample_means_exhausted_iff (by decide) [[97], [98], [99]]⟩

/-- Main has three keys and one of them is excluded. All eight draws meet that one. -/
theorem sample_overlooks_two_keys_in_eight_draws :
    let p := (empty 10 1 (.ofSeed 4664)).after
      [.insert [97] .main 1, .insert [98] .main 1, .insert [99] .main 1]
    p.Coherent ∧ 1 ≤ p.sampleSize ∧ (p.sample [[97]]).1 = [] ∧ ¬p.Exhausted [[97]] := by
  refine ⟨coherent_after 10 1 (.ofSeed 4664) _ (by decide), by decide, by decide +kernel, ?_⟩
  intro hleft
  exact absurd (hleft .main [98] (by decide)) (by decide)

end Placement

end LfuCache
