import Mathlib
import LfuCache.Proofs.Shard.Contents

/-!
# The capacity of a shard

A shard that holds no more than its capacity keeps to it in every call but one: a write over
a live entry whose eviction loop gets stuck. When it gets stuck is said by `Starves`, and a
run keeps to the capacity exactly if none of its calls starves.
-/

namespace LfuCache.Shard

variable {s t : Shard} {frequency : UInt64 → Nat} {key : Key} {hash : UInt64} {value : ByteArray}
  {cost : Nat} {expiresAt : Option Instant} {now : Instant} {result : SetResult}

/-! ## Changes that free room -/

theorem used_promote (s : Shard) (key : Key) (cost : Nat) : (s.promote key cost).used = s.used := by
  unfold promote
  split <;> rfl

theorem used_touch (s : Shard) (frequency : UInt64 → Nat) (key : Key) (entry : Entry)
    (hash : UInt64) : (s.touch frequency key entry hash).used = s.used := by
  unfold touch
  split
  · exact used_promote s key entry.cost
  · rfl

theorem Easings.used_le (h : Easings s t) : t.used ≤ s.used := by
  induction h with
  | refl => exact Nat.le_refl _
  | tail _ heasing ih =>
    refine Nat.le_trans ?_ ih
    cases heasing with
    | record => exact Nat.le_refl _
    | draw => exact Nat.le_refl _
    | remove => exact Nat.sub_le _ _
    | promote => exact (used_promote _ _ _).le
    | clear => exact Nat.zero_le _

/-! ## Admissions -/

theorem used_store (s : Shard) (key : Key) (hash : UInt64) (value : ByteArray) (cost : Nat)
    (expiresAt : Option Instant) :
    (s.store key hash value cost expiresAt).used = s.used + cost := rfl

theorem used_removeAll_chosen {victims : List Victim} {needed : Nat} (hs : s.Accounted)
    (hchosen : Chosen s.entries frequency hash needed victims) :
    (removeAll .evicted (victims.map (·.key)) s).2.used + Admission.freedBy victims = s.used := by
  have hdrops := (drops_chosen hchosen).2
  have hused := hs.used_add_removals (hs.changes (changes_removeAll .evicted _ s)) hdrops
  rw [List.map_map] at hused
  exact hused

theorem used_admits_le (hs : s.Accounted) (hbound : s.used ≤ s.capacity)
    (h : s.Admits frequency key hash value cost expiresAt result t) : t.used ≤ s.capacity := by
  cases h with
  | fits hroom => exact hroom
  | refuse => exact hbound
  | @displace placement victims hless hdraws hchosen =>
    have hdrawn : Accounted { s with placement } := hs.change (.draw hdraws)
    have hfreed := used_removeAll_chosen hdrawn hchosen
    have henough := hchosen.enough
    rw [used_record, used_store]
    simp only at hfreed
    omega

/-! ## Writes over a live entry -/

theorem keeps_rewrite {entry : Entry} (hs : s.Accounted) (hsize : 0 < s.placement.sampleSize)
    (hcost : cost ≤ s.capacity) (hget : s.entries[key]? = some entry) :
    ((s.touch frequency key entry hash).rewrite key value cost expiresAt).Keeps key := by
  have hchanges := changes_rewritten hget frequency hash value cost expiresAt
  have hsettings := SameSettings.of_changes hchanges
  have hcontents := congrFun (contents_rewritten hget frequency hash value cost expiresAt) key
  rw [Function.update_self] at hcontents
  obtain ⟨written, hwritten, hsame⟩ := Option.map_eq_some_iff.mp hcontents
  refine ⟨hs.changes hchanges, ?_, written, hwritten, ?_⟩
  · rw [hsettings.sampleSize]
    exact hsize
  · rw [hsettings.capacity]
    have hnew : written.cost = cost := congrArg Content.cost hsame
    omega

/-! ## One call -/

/-- A write over a live entry whose eviction loop gets stuck. The turns of the loop lead to a
shard that holds too much and whose next sample names nobody. -/
def Starves (s : Shard) : ShardCall → Prop
  | .set frequency key hash value cost expiresAt now =>
    cost ≤ s.capacity ∧ expiredAt expiresAt now = false ∧
      ∃ entry, s.entries[key]? = some entry ∧ entry.isExpired now = false ∧
        ∃ t, Evicts frequency key
            ((s.touch frequency key entry hash).rewrite key value cost expiresAt) t ∧
          s.capacity < t.used ∧ t.placement.Unlucky key
  | _ => False

theorem capacity_overwrite_iff {entry : Entry} (hs : s.Accounted)
    (hsize : 0 < s.placement.sampleSize) (hcost : cost ≤ s.capacity)
    (hget : s.entries[key]? = some entry) :
    s.capacity < (s.overwrite frequency key entry hash value cost expiresAt).2.used ↔
      ∃ t, Evicts frequency key
          ((s.touch frequency key entry hash).rewrite key value cost expiresAt) t ∧
        s.capacity < t.used ∧ t.placement.Unlucky key := by
  have hkeeps : ((s.touch frequency key entry hash).rewrite key value cost expiresAt).Keeps key :=
    keeps_rewrite hs hsize hcost hget
  have hsettings := SameSettings.of_changes
    (changes_rewritten hget frequency hash value cost expiresAt)
  rw [← hsettings.capacity]
  exact hkeeps.over_shrink_iff (Nat.le_refl _)

theorem capacity_call_iff (hs : s.Accounted) (hsize : 0 < s.placement.sampleSize)
    (hbound : s.used ≤ s.capacity) (call : ShardCall) :
    (s.call call).2.used ≤ s.capacity ↔ ¬s.Starves call := by
  cases call with
  | get frequency key now =>
    exact iff_of_true ((easings_get s frequency key now).used_le.trans hbound) id
  | delete key now => exact iff_of_true ((easings_delete s key now).used_le.trans hbound) id
  | clear => exact iff_of_true (Nat.zero_le _) id
  | removeExpired order now =>
    exact iff_of_true ((easings_removeAll .expired _ s).used_le.trans hbound) id
  | set frequency key hash value cost expiresAt now =>
    have hsets := s.set_sets frequency key hash value cost expiresAt now
    simp only [Shard.call, Starves]
    generalize s.set frequency key hash value cost expiresAt now = answer at hsets
    cases hsets with
    | tooLarge hlarge =>
      refine iff_of_true hbound ?_
      rintro ⟨hcost, -⟩
      omega
    | tooLate hcost hlate =>
      refine iff_of_true ((easings_removeEntry s key .expired).used_le.trans hbound) ?_
      rintro ⟨-, hearly, -⟩
      rw [hlate] at hearly
      exact absurd hearly (by simp)
    | new hcost hearly hvacant hadmits =>
      have heasings := easings_removeEntry s key .expired
      have hcapacity := (SameSettings.of_changes heasings.changes).capacity
      have hle := used_admits_le (hs.changes heasings.changes)
        (hcapacity ▸ heasings.used_le.trans hbound) hadmits
      refine iff_of_true (hcapacity ▸ hle) ?_
      rintro ⟨-, -, entry, hget, hlive, -⟩
      rw [hvacant entry hget] at hlive
      exact absurd hlive (by simp)
    | live hcost hearly hget hlive =>
      rw [← not_lt, not_iff_not]
      apply (capacity_overwrite_iff hs hsize hcost hget).trans
      constructor
      · intro hstuck
        exact ⟨hcost, hearly, _, hget, hlive, hstuck⟩
      · rintro ⟨-, -, entry, hsame, -, hstuck⟩
        rw [hget] at hsame
        obtain rfl := Option.some.inj hsame
        exact hstuck

/-! ## Runs -/

theorem sameSettings_after (s : Shard) (calls : List ShardCall) : SameSettings s (s.after calls) :=
  after_induction (fun _ call h => h.trans (.of_changes (changes_call _ call))) (.refl s) calls

/-- What a new shard holds stays within its capacity during a run exactly if no call of the
run starves. -/
theorem capacity_kept_iff (capacity windowCapacity sampleSize : Nat) (random : Generator)
    (calls : List ShardCall) :
    let new := empty capacity (.empty windowCapacity sampleSize random)
    (∀ before, before <+: calls → (new.after before).used ≤ capacity) ↔
      ∀ before call, before ++ [call] <+: calls → ¬(new.after before).Starves call := by
  intro new
  have hnew : new.Accounted := accounted_empty capacity windowCapacity sampleSize random
  have hone : ∀ before call, (new.after before).used ≤ capacity →
      ((new.after (before ++ [call])).used ≤ capacity ↔ ¬(new.after before).Starves call) := by
    intro before call hbound
    have hsettings := sameSettings_after new before
    have hcapacity : (new.after before).capacity = capacity := hsettings.capacity
    have hsize : 0 < (new.after before).placement.sampleSize := by
      rw [hsettings.sampleSize]
      exact Nat.lt_of_lt_of_le Nat.one_pos (Nat.le_max_right sampleSize 1)
    have hcall := capacity_call_iff (hnew.after before) hsize (by rwa [hcapacity]) call
    rw [hcapacity] at hcall
    rw [after_append]
    exact hcall
  constructor
  · intro hkept before call hprefix
    have hbound := hkept before ((List.prefix_append before [call]).trans hprefix)
    exact (hone before call hbound).mp (hkept _ hprefix)
  · intro hfed before
    induction before using List.reverseRecOn with
    | nil => exact fun _ => Nat.zero_le _
    | append_singleton before call ih =>
      intro hprefix
      have hbound := ih ((List.prefix_append before [call]).trans hprefix)
      exact (hone before call hbound).mpr (hfed before call hprefix)

/-- Three keys fill a shard of six units. The first one is then given one unit more, and all
eight draws meet that key itself. -/
theorem exceeds_capacity_on_four_writes :
    let put (key : UInt8) (cost : Nat) : ShardCall :=
      .set (fun _ => 0) [key] 0 ⟨#[]⟩ cost none 0
    ((empty 6 (.empty 1 1 (.ofSeed 4664))).after [put 97 2, put 98 2, put 99 2, put 97 3]).used =
      7 := by
  decide +kernel

end LfuCache.Shard
