import Mathlib
import LfuCache.Admission

/-!
# Rounds of admission

A contest is a list of rounds that the candidate wins, each against the first of the least
frequent victims, and then an end: enough is freed, or a round is lost. This holds for every
sampler.
-/

namespace LfuCache.Admission

variable {frequency : UInt64 → Nat}

/-! ## One round -/

theorem weakest_eq_none_iff {victims : List Victim} :
    weakest frequency victims = none ↔ victims = [] := by
  rw [← not_iff_not, ← ne_eq, ← Option.isSome_iff_ne_none]
  exact List.isSome_minOn?_iff

theorem weakest_mem {victims : List Victim} {v : Victim}
    (h : weakest frequency victims = some v) : v ∈ victims := List.minOn?_mem h

theorem weakest_le {victims : List Victim} {v w : Victim}
    (h : weakest frequency victims = some v) (hw : w ∈ victims) :
    frequency v.hash ≤ frequency w.hash := by
  have hle := List.apply_get_minOn?_le_of_mem (f := fun v : Victim => frequency v.hash) hw
  have hget : (victims.minOn? fun v => frequency v.hash) = some v := h
  simpa [hget] using hle

theorem beats_iff_lt {victims : List Victim} {v : Victim} {candidate : UInt64}
    (h : weakest frequency victims = some v) :
    beats frequency candidate victims = true ↔ frequency v.hash < frequency candidate := by
  have hleast : (victims.map fun v => frequency v.hash).min? = some (frequency v.hash) := by
    rw [List.min?_eq_some_iff]
    refine ⟨List.mem_map_of_mem (weakest_mem h), ?_⟩
    simp only [List.forall_mem_map]
    exact fun w hw => weakest_le h hw
  simp [beats, hleast]

/-! ## All rounds -/

def freedBy (victims : List Victim) : Nat := (victims.map (·.cost)).sum

@[simp]
theorem freedBy_nil : freedBy [] = 0 := rfl

@[simp]
theorem freedBy_cons (v : Victim) (victims : List Victim) :
    freedBy (v :: victims) = v.cost + freedBy victims := rfl

section Contest

variable {σ : Type} {candidate : UInt64} {sample : List Key → σ → List Victim × σ}

/-- Rounds that the candidate wins, from the keys chosen so far and the sampler's state. -/
inductive Wins (frequency : UInt64 → Nat) (candidate : UInt64)
    (sample : List Key → σ → List Victim × σ) : List Key → σ → List Victim → σ → Prop where
  | nil (chosen : List Key) (state : σ) : Wins frequency candidate sample chosen state [] state
  | round {chosen : List Key} {state last : σ} {v : Victim} {victims : List Victim} :
    weakest frequency (sample chosen state).1 = some v →
    frequency v.hash < frequency candidate →
    Wins frequency candidate sample (chosen ++ [v.key]) (sample chosen state).2 victims last →
    Wins frequency candidate sample chosen state (v :: victims) last

namespace Wins

variable {chosen : List Key} {state last : σ} {victims : List Victim}

theorem keep {I : σ → Prop} (hstep : ∀ chosen st, I st → I (sample chosen st).2)
    (h : Wins frequency candidate sample chosen state victims last) (hI : I state) : I last := by
  induction h with
  | nil => exact hI
  | round _ _ _ ih => exact ih (hstep _ _ hI)

theorem forall_mem {I : σ → Prop} {P : Victim → Prop}
    (hstep : ∀ chosen st, I st → I (sample chosen st).2)
    (hsampled : ∀ chosen st, I st → ∀ v ∈ (sample chosen st).1, P v)
    (h : Wins frequency candidate sample chosen state victims last) (hI : I state) :
    ∀ v ∈ victims, P v ∧ frequency v.hash < frequency candidate := by
  induction h with
  | nil => simp
  | round hweakest hlt _ ih =>
    simp only [List.forall_mem_cons]
    exact ⟨⟨hsampled _ _ hI _ (weakest_mem hweakest), hlt⟩, ih (hstep _ _ hI)⟩

theorem nodup {I : σ → Prop} (hstep : ∀ chosen st, I st → I (sample chosen st).2)
    (hfresh : ∀ chosen st, I st → ∀ v ∈ (sample chosen st).1, v.key ∉ chosen)
    (h : Wins frequency candidate sample chosen state victims last) (hI : I state)
    (hchosen : chosen.Nodup) : (chosen ++ victims.map (·.key)).Nodup := by
  induction h with
  | nil => simpa using hchosen
  | round hweakest _ _ ih =>
    have hnew := hfresh _ _ hI _ (weakest_mem hweakest)
    have hmore := ih (hstep _ _ hI)
      (List.nodup_append_comm.mp (List.nodup_cons.mpr ⟨hnew, hchosen⟩))
    simpa using hmore

end Wins

/-- How a contest ends after the rounds that were won. -/
inductive Ends (frequency : UInt64 → Nat) (candidate : UInt64) (needed : Nat)
    (sample : List Key → σ → List Victim × σ) (chosen : List Key) (freed : Nat) (state : σ) :
    Decision → σ → Prop where
  | displace : needed ≤ freed → Ends frequency candidate needed sample chosen freed state
      (.displace chosen) state
  | refuse : freed < needed →
      (∀ v ∈ (sample chosen state).1, frequency candidate ≤ frequency v.hash) →
      Ends frequency candidate needed sample chosen freed state .refuse (sample chosen state).2

theorem contest_rounds {needed rounds freed : Nat} {chosen : List Key} {state last : σ}
    {decision : Decision}
    (h : contest frequency candidate needed sample rounds chosen freed state =
      some (decision, last)) :
    ∃ victims mid, Wins frequency candidate sample chosen state victims mid ∧
      (victims ≠ [] → freed + freedBy victims.dropLast < needed) ∧
      Ends frequency candidate needed sample (chosen ++ victims.map (·.key))
        (freed + freedBy victims) mid decision last := by
  induction rounds generalizing chosen freed state with
  | zero =>
    unfold contest at h
    split at h
    · obtain ⟨rfl, rfl⟩ := h
      exact ⟨[], _, .nil _ _, by simp, by simpa using .displace ‹_›⟩
    · exact absurd h (by simp)
  | succ rounds ih =>
    unfold contest at h
    split at h
    · obtain ⟨rfl, rfl⟩ := h
      exact ⟨[], _, .nil _ _, by simp, by simpa using .displace ‹_›⟩
    · have hless : freed < needed := by omega
      have hlost : (∀ v ∈ (sample chosen state).1, frequency candidate ≤ frequency v.hash) →
          Ends frequency candidate needed sample (chosen ++ ([] : List Victim).map (·.key))
            (freed + freedBy []) state .refuse (sample chosen state).2 := by
        intro hall
        simpa using .refuse hless hall
      cases hweakest : weakest frequency (sample chosen state).1 with
      | none =>
        have hnil := weakest_eq_none_iff.mp hweakest
        have hrefuse : decision = .refuse ∧ last = (sample chosen state).2 := by
          simp only [hweakest] at h
          split at h <;> simp_all
        obtain ⟨rfl, rfl⟩ := hrefuse
        exact ⟨[], state, .nil _ _, by simp, hlost (by simp [hnil])⟩
      | some v =>
        simp only [hweakest] at h
        split at h
        · -- The candidate does not beat the least frequent victim, so it beats none.
          rename_i hbeaten
          have hnot : ¬frequency v.hash < frequency candidate := by
            rw [← beats_iff_lt hweakest]
            simpa using hbeaten
          obtain ⟨rfl, rfl⟩ := h
          refine ⟨[], state, .nil _ _, by simp, hlost fun w hw => ?_⟩
          have hle := weakest_le hweakest hw
          omega
        · rename_i hbeats
          have hlt : frequency v.hash < frequency candidate := by
            rw [← beats_iff_lt hweakest]
            simpa using hbeats
          obtain ⟨victims, mid, hwins, hprefix, hends⟩ := ih h
          refine ⟨v :: victims, mid, .round hweakest hlt hwins, ?_, ?_⟩
          · intro _
            cases victims with
            | nil => simpa using hless
            | cons w rest =>
              have hrest := hprefix (by simp)
              rw [List.dropLast_cons_cons, freedBy_cons]
              omega
          · simpa [Nat.add_assoc] using hends

theorem contest_succ {needed freed : Nat} (rounds : Nat) (chosen : List Key) (state : σ)
    (hless : freed < needed) :
    contest frequency candidate needed sample (rounds + 1) chosen freed state =
      if !beats frequency candidate (sample chosen state).1 then
        some (.refuse, (sample chosen state).2)
      else match weakest frequency (sample chosen state).1 with
        | none => some (.refuse, (sample chosen state).2)
        | some v => contest frequency candidate needed sample rounds (chosen ++ [v.key])
            (freed + v.cost) (sample chosen state).2 := by
  rw [contest]
  exact if_neg (by omega)

theorem contest_of_wins {needed freed : Nat} {chosen : List Key} {state last : σ}
    {victims : List Victim} (rounds : Nat)
    (h : Wins frequency candidate sample chosen state victims last)
    (hless : freed + freedBy victims < needed) :
    contest frequency candidate needed sample (rounds + victims.length) chosen freed state =
      contest frequency candidate needed sample rounds (chosen ++ victims.map (·.key))
        (freed + freedBy victims) last := by
  induction h generalizing freed with
  | nil => simp
  | @round chosen state last v victims hweakest hlt _ ih =>
    rw [freedBy_cons, ← Nat.add_assoc] at hless ⊢
    have hbeats : beats frequency candidate (sample chosen state).1 = true :=
      (beats_iff_lt hweakest).mpr hlt
    rw [List.length_cons, ← Nat.add_assoc, contest_succ _ _ _ (by omega)]
    simp [hbeats, hweakest, ih hless]

theorem contest_of_no_victim {needed freed : Nat} {chosen : List Key} {state : σ} (rounds : Nat)
    (hless : freed < needed) (hnil : (sample chosen state).1 = []) :
    contest frequency candidate needed sample (rounds + 1) chosen freed state =
      some (.refuse, (sample chosen state).2) := by
  rw [contest_succ _ _ _ hless, weakest_eq_none_iff.mpr hnil]
  simp

theorem contest_ne_none (pool : List Key) {needed : Nat} {I : σ → Prop}
    (hstep : ∀ chosen st, I st → I (sample chosen st).2)
    (hsampled : ∀ chosen st, I st → ∀ v ∈ (sample chosen st).1, v.key ∈ pool ∧ v.key ∉ chosen)
    {rounds freed : Nat} {chosen : List Key} {state : σ} (hI : I state) (hnodup : chosen.Nodup)
    (hpool : ∀ key ∈ chosen, key ∈ pool) (hrounds : pool.length < rounds + chosen.length) :
    contest frequency candidate needed sample rounds chosen freed state ≠ none := by
  induction rounds generalizing chosen freed state with
  | zero =>
    -- Each round has chosen another key of the pool, so there are no more of them than keys.
    have hle := (List.subperm_of_subset hnodup hpool).length_le
    omega
  | succ rounds ih =>
    by_cases henough : needed ≤ freed
    · simp [contest, henough]
    · rw [contest_succ _ _ _ (by omega)]
      split
      · simp
      · cases hweakest : weakest frequency (sample chosen state).1 with
        | none => simp
        | some v =>
          obtain ⟨hin, hnew⟩ := hsampled _ _ hI v (weakest_mem hweakest)
          apply ih (hstep _ _ hI)
          · exact List.nodup_append_comm.mp (List.nodup_cons.mpr ⟨hnew, hnodup⟩)
          · intro key hkey
            rcases List.mem_append.mp hkey with hkey | hkey
            · exact hpool key hkey
            · exact List.mem_singleton.mp hkey ▸ hin
          · simp only [List.length_append, List.length_singleton]
            omega

end Contest

/-! ## Two samplers -/

/-- The same answer, with states that are related. -/
structure Agree {α σ τ : Type} (R : σ → τ → Prop) (x : α × σ) (y : α × τ) : Prop where
  answer : y.1 = x.1
  state : R x.2 y.2

theorem Agree.getD {α σ τ : Type} {R : σ → τ → Prop} {x : Option (α × σ)} {y : Option (α × τ)}
    {a : σ} {b : τ} (h : Option.Rel (Agree R) x y) (answer : α) (hdefault : R a b) :
    Agree R (x.getD (answer, a)) (y.getD (answer, b)) := by
  cases h with
  | none => exact ⟨rfl, hdefault⟩
  | some hagree => exact hagree

section Samplers

variable {σ τ : Type} {R : σ → τ → Prop} {candidate : UInt64}
  {sample : List Key → σ → List Victim × σ} {other : List Key → τ → List Victim × τ}
  {a : σ} {b : τ}

theorem contest_agree (hsample : ∀ chosen a b, R a b → Agree R (sample chosen a) (other chosen b))
    (needed rounds : Nat) (chosen : List Key) (freed : Nat) (h : R a b) :
    Option.Rel (Agree R) (contest frequency candidate needed sample rounds chosen freed a)
      (contest frequency candidate needed other rounds chosen freed b) := by
  induction rounds generalizing chosen freed a b with
  | zero =>
    unfold contest
    split
    · exact .some ⟨rfl, h⟩
    · exact .none
  | succ rounds ih =>
    by_cases henough : needed ≤ freed
    · simp only [contest, if_pos henough]
      exact .some ⟨rfl, h⟩
    · obtain ⟨hoffered, hstate⟩ := hsample chosen a b h
      rw [contest_succ _ _ _ (by omega), contest_succ _ _ _ (by omega), hoffered]
      split
      · exact .some ⟨rfl, hstate⟩
      · cases weakest frequency (sample chosen a).1 with
        | none => exact .some ⟨rfl, hstate⟩
        | some v => exact ih _ _ hstate

theorem judge_agree (hsample : ∀ chosen a b, R a b → Agree R (sample chosen a) (other chosen b))
    (needed rounds : Nat) (h : R a b) :
    Option.Rel (Agree R) (judge frequency candidate needed sample rounds a)
      (judge frequency candidate needed other rounds b) := by
  unfold judge
  split
  · exact .some ⟨rfl, h⟩
  · exact contest_agree hsample needed rounds [] 0 h

end Samplers

end LfuCache.Admission
