import Mathlib
import LfuCache.Proofs.Admission.Calls

/-!
# Admission over a full pool

A sampler that offers all that is left of a pool makes the rounds go through the pool from the
least frequent victim on. Those that are equally frequent go in the order of the pool. So the
chosen victims are the shortest front of the sorted pool that frees enough, or the candidate
is refused.
-/

namespace LfuCache.Admission

variable {frequency : UInt64 → Nat} {σ : Type} {candidate : UInt64} {needed : Nat}
  {sample : List Key → σ → List Victim × σ} {pool : List Victim}

/-! ## Sorting by frequency -/

/-- The least frequent first. The sort is stable, so equals keep their order. -/
def byFrequency (frequency : UInt64 → Nat) (victims : List Victim) : List Victim :=
  victims.mergeSort fun v w => decide (frequency v.hash ≤ frequency w.hash)

@[simp]
theorem byFrequency_nil : byFrequency frequency [] = [] := List.mergeSort_nil

theorem mem_byFrequency {victims : List Victim} {v : Victim} :
    v ∈ byFrequency frequency victims ↔ v ∈ victims := List.mem_mergeSort

theorem split_of_none {p : Victim → Bool} {victims : List Victim}
    (h : ∀ w ∈ victims, p w = false) :
    victims.takeWhile p = [] ∧ victims.dropWhile p = victims := by
  cases victims with
  | nil => exact ⟨rfl, rfl⟩
  | cons w rest => simp [h w List.mem_cons_self]

theorem byFrequency_cons (v : Victim) (victims : List Victim) :
    byFrequency frequency (v :: victims) =
      (byFrequency frequency victims).takeWhile (fun w => frequency w.hash < frequency v.hash) ++
        v :: (byFrequency frequency victims).dropWhile
          (fun w => frequency w.hash < frequency v.hash) := by
  have htrans : ∀ a b c : Victim, decide (frequency a.hash ≤ frequency b.hash) = true →
      decide (frequency b.hash ≤ frequency c.hash) = true →
      decide (frequency a.hash ≤ frequency c.hash) = true := by
    simp only [decide_eq_true_eq]
    omega
  have htotal : ∀ a b : Victim, (decide (frequency a.hash ≤ frequency b.hash) ||
      decide (frequency b.hash ≤ frequency a.hash)) = true := by
    simp only [Bool.or_eq_true, decide_eq_true_eq]
    omega
  obtain ⟨less, rest, hcons, hsplit, hless⟩ := List.mergeSort_cons htrans htotal v victims
  have hsorted := List.pairwise_mergeSort htrans htotal (v :: victims)
  rw [hcons, List.pairwise_append, List.pairwise_cons] at hsorted
  obtain ⟨-, ⟨hrest, -⟩, -⟩ := hsorted
  have hall : ∀ w ∈ less, decide (frequency w.hash < frequency v.hash) = true := by
    intro w hw
    simpa using hless w hw
  have hnone : ∀ w ∈ rest, decide (frequency w.hash < frequency v.hash) = false := by
    intro w hw
    simpa using hrest w hw
  obtain ⟨htake, hdrop⟩ := split_of_none hnone
  rw [byFrequency, byFrequency, hcons, hsplit, List.takeWhile_append_of_pos hall,
    List.dropWhile_append_of_pos hall, htake, hdrop, List.append_nil]

theorem byFrequency_firstLeast {before after : List Victim} {v : Victim}
    (hbefore : ∀ w ∈ before, frequency v.hash < frequency w.hash)
    (hafter : ∀ w ∈ after, frequency v.hash ≤ frequency w.hash) :
    byFrequency frequency (before ++ v :: after) =
      v :: byFrequency frequency (before ++ after) := by
  induction before with
  | nil =>
    have hnone : ∀ w ∈ byFrequency frequency after,
        decide (frequency w.hash < frequency v.hash) = false := by
      intro w hw
      simpa using hafter w (mem_byFrequency.mp hw)
    obtain ⟨htake, hdrop⟩ := split_of_none hnone
    rw [List.nil_append, List.nil_append, byFrequency_cons, htake, hdrop, List.nil_append]
  | cons w before ih =>
    obtain ⟨hw, hbefore⟩ := List.forall_mem_cons.mp hbefore
    rw [List.cons_append, List.cons_append, byFrequency_cons, ih hbefore, byFrequency_cons w]
    simp [hw]

/-! ## What is left of a pool -/

def left (pool : List Victim) (chosen : List Key) : List Victim :=
  pool.filter fun v => !chosen.contains v.key

/-- Whatever its state, the sampler offers all of the pool that is not chosen yet. -/
def OffersAll (sample : List Key → σ → List Victim × σ) (pool : List Victim) : Prop :=
  ∀ chosen state, (sample chosen state).1 = left pool chosen

theorem mem_left {chosen : List Key} {v : Victim} :
    v ∈ left pool chosen ↔ v ∈ pool ∧ v.key ∉ chosen := by
  simp [left]

theorem OffersAll.drawsFrom (h : OffersAll sample pool) :
    DrawsFrom (pool.map (·.key)).toFinset (fun _ => True) sample where
  step _ _ _ := trivial
  offered chosen state _ v hv := by
    rw [h, mem_left] at hv
    exact ⟨List.mem_toFinset.mpr (List.mem_map_of_mem hv.1), hv.2⟩

theorem left_choose {chosen : List Key} {before after : List Victim} {v : Victim}
    (hkeys : (pool.map (·.key)).Nodup) (hleft : left pool chosen = before ++ v :: after) :
    left pool (chosen ++ [v.key]) = before ++ after := by
  have hsplit : left pool (chosen ++ [v.key]) =
      (left pool chosen).filter fun w => w.key ≠ v.key := by
    rw [left, left, List.filter_filter]
    apply List.filter_congr
    intro w _
    simp [Bool.and_comm]
  have hnodup : ((left pool chosen).map (·.key)).Nodup :=
    hkeys.sublist (List.filter_sublist.map _)
  rw [hleft, List.map_append, List.map_cons, List.nodup_middle] at hnodup
  obtain ⟨hfresh, -⟩ := List.nodup_cons.mp hnodup
  rw [← List.map_append, List.mem_map] at hfresh
  have hother : ∀ w ∈ before ++ after, w.key ≠ v.key := fun w hw heq => hfresh ⟨w, hw, heq⟩
  rw [List.forall_mem_append] at hother
  rw [hsplit, hleft, List.filter_append, List.filter_cons_of_neg (by simp),
    List.filter_eq_self.mpr (by simpa using hother.1),
    List.filter_eq_self.mpr (by simpa using hother.2)]

/-- The rounds that are won take the sorted pool from its front. -/
theorem Wins.sorted {chosen : List Key} {start last : σ} {victims : List Victim}
    (hoffers : OffersAll sample pool) (hkeys : (pool.map (·.key)).Nodup)
    (h : Wins frequency candidate sample chosen start victims last) :
    byFrequency frequency (left pool chosen) =
      victims ++ byFrequency frequency (left pool (chosen ++ victims.map (·.key))) := by
  induction h with
  | nil => simp
  | @round chosen start last v victims hweakest _ _ ih =>
    obtain ⟨before, after, hleft, hbefore, hafter⟩ := firstLeast_of_weakest hweakest
    rw [hoffers] at hleft
    rw [hleft, byFrequency_firstLeast hbefore hafter, ← left_choose hkeys hleft, ih]
    simp

/-! ## The shortest front -/

/-- The shortest front of the list that frees enough. -/
structure ShortestFront (needed : Nat) (victims front : List Victim) : Prop where
  isFront : front <+: victims
  enough : needed ≤ freedBy front
  shortest : ∀ other, other <+: victims → needed ≤ freedBy other → front.length ≤ other.length

theorem freedBy_append (victims more : List Victim) :
    freedBy (victims ++ more) = freedBy victims + freedBy more := by
  simp [freedBy]

theorem freedBy_le_of_front {front victims : List Victim} (h : front <+: victims) :
    freedBy front ≤ freedBy victims := by
  obtain ⟨more, rfl⟩ := h
  rw [freedBy_append]
  exact Nat.le_add_right _ _

theorem ShortestFront.unique {victims front other : List Victim}
    (h : ShortestFront needed victims front) (hother : ShortestFront needed victims other) :
    front = other := by
  have hle := h.shortest other hother.isFront hother.enough
  have hge := hother.shortest front h.isFront h.enough
  exact (List.prefix_of_prefix_length_le h.isFront hother.isFront hle).eq_of_length (by omega)

theorem shortestFront_of_no_spare {victims front : List Victim} (hfront : front <+: victims)
    (henough : needed ≤ freedBy front) (hspare : freedBy front.dropLast < needed) :
    ShortestFront needed victims front := by
  refine ⟨hfront, henough, fun other hother hother_enough => ?_⟩
  by_contra hless
  have hshort : other <+: front.dropLast := by
    apply List.prefix_of_prefix_length_le hother ((List.dropLast_prefix front).trans hfront)
    rw [List.length_dropLast]
    omega
  have hle := freedBy_le_of_front hshort
  omega

theorem exists_beyond {front victims rest : List Victim} (hfront : front <+: victims ++ rest)
    (henough : needed ≤ freedBy front) (hless : freedBy victims < needed) :
    ∃ v ∈ front, v ∈ rest := by
  rcases List.prefix_or_prefix_of_prefix hfront (List.prefix_append victims rest) with h | h
  · have hle := freedBy_le_of_front h
    omega
  · obtain ⟨beyond, rfl⟩ := h
    rw [List.prefix_append_right_inj] at hfront
    cases beyond with
    | nil =>
      rw [List.append_nil] at henough
      omega
    | cons v beyond => exact ⟨v, by simp, hfront.subset List.mem_cons_self⟩

/-! ## The decision -/

/-- With all of the pool on offer, the candidate displaces the shortest front of the sorted
pool that frees enough, if it is more frequent than all of them. Otherwise it is refused. -/
theorem full_pool_displaces_sorted_front (hoffers : OffersAll sample pool)
    (hkeys : (pool.map (·.key)).Nodup) (hneeded : 0 < needed) (state : σ) {rounds : Nat}
    (hrounds : pool.length < rounds) :
    (∀ front, ShortestFront needed (byFrequency frequency pool) front →
      (∀ v ∈ front, frequency v.hash < frequency candidate) →
      (judge frequency candidate needed sample rounds state).map (·.1) =
        some (.displace (front.map (·.key)))) ∧
    ((¬∃ front, ShortestFront needed (byFrequency frequency pool) front ∧
        ∀ v ∈ front, frequency v.hash < frequency candidate) →
      (judge frequency candidate needed sample rounds state).map (·.1) = some .refuse) := by
  have hdraws := hoffers.drawsFrom
  have hreached : (fun _ : σ => True) state := trivial
  obtain ⟨decision, last, hanswer⟩ := hdraws.answersWithin hreached frequency candidate needed
  have hcard : (pool.map (·.key)).toFinset.card ≤ pool.length :=
    (List.toFinset_card_le _).trans_eq (List.length_map _)
  have hjudge : judge frequency candidate needed sample rounds state = some (decision, last) :=
    hanswer.judge_eq (by omega)
  have hcontest := hjudge
  rw [judge, if_neg (by omega)] at hcontest
  rw [hjudge, Option.map_some]
  obtain ⟨victims, mid, hwins, hprefix, hends⟩ := contest_rounds hcontest
  have hsorted := hwins.sorted hoffers hkeys
  have hall : left pool [] = pool := by simp [left]
  have hweaker : ∀ v ∈ victims, frequency v.hash < frequency candidate := by
    have hall := hwins.forall_mem hdraws.step (fun _ _ _ _ _ => trivial) trivial
    exact fun v hv => (hall v hv).2
  rw [hall, List.nil_append] at hsorted
  rw [List.nil_append, Nat.zero_add] at hends
  cases hends with
  | displace henough =>
    have hne : victims ≠ [] := by
      rintro rfl
      simp only [freedBy_nil] at henough
      omega
    have hspare := hprefix hne
    rw [Nat.zero_add] at hspare
    have hshortest : ShortestFront needed (byFrequency frequency pool) victims :=
      shortestFront_of_no_spare ⟨_, hsorted.symm⟩ henough hspare
    constructor
    · intro front hfront _
      rw [hfront.unique hshortest]
    · intro hnone
      exact absurd ⟨victims, hshortest, hweaker⟩ hnone
  | refuse hless hlost =>
    refine ⟨fun front hfront hfront_weaker => ?_, fun _ => rfl⟩
    -- Beyond the won rounds the front meets a victim that beats the candidate.
    obtain ⟨v, hv, hrest⟩ := exists_beyond (hsorted ▸ hfront.isFront) hfront.enough hless
    rw [mem_byFrequency] at hrest
    have hle := hlost v ((hoffers _ mid).symm ▸ hrest)
    have hlt := hfront_weaker v hv
    omega

/-- Two victims tie for the least frequency, one of them is free, and three have to go. -/
theorem full_pool_displaces_sorted_front_with_tie :
    let pool : List Victim := [⟨[97], 2, 3⟩, ⟨[98], 1, 0⟩, ⟨[99], 1, 2⟩, ⟨[100], 5, 4⟩]
    let sample (chosen : List Key) (n : Nat) : List Victim × Nat := (left pool chosen, n + 1)
    let front : List Victim := [⟨[98], 1, 0⟩, ⟨[99], 1, 2⟩, ⟨[97], 2, 3⟩]
    OffersAll sample pool ∧ (pool.map (·.key)).Nodup ∧
      ShortestFront 4 (byFrequency UInt64.toNat pool) front ∧
      (∀ v ∈ front, v.hash.toNat < 4) ∧
      (judge UInt64.toNat 4 4 sample 5 0).map (·.1) = some (.displace [[98], [99], [97]]) := by
  intro pool sample front
  have hoffers : OffersAll sample pool := fun _ _ => rfl
  have hsorted : byFrequency UInt64.toNat pool = front ++ [⟨[100], 5, 4⟩] := by
    simp [pool, front, byFrequency_cons]
  have hfront : ShortestFront 4 (byFrequency UInt64.toNat pool) front :=
    shortestFront_of_no_spare ⟨_, hsorted.symm⟩ (by decide) (by decide)
  have hweaker : ∀ v ∈ front, v.hash.toNat < 4 := by decide
  exact ⟨hoffers, by decide, hfront, hweaker,
    (full_pool_displaces_sorted_front hoffers (by decide) (by decide) 0 (by decide)).1
      front hfront hweaker⟩

end LfuCache.Admission
