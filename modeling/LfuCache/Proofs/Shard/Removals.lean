import Mathlib
import LfuCache.Proofs.Shard.Accounting

/-!
# What leaves a shard

`Drops` says that entries left for one cause: which keys, in which order, and what was
reported of each. Nothing else changes, and the used cost falls by what was reported.
-/

namespace LfuCache

def reportOf (cause : RemovalCause) (entries : Entries) (key : Key) : Option Removal :=
  (entries[key]?).map (Shard.removalOf cause)

/-- The keys were there, each of them is reported, and the other entries are as before. -/
structure Drops (cause : RemovalCause) (before : Entries) (keys : List Key)
    (removals : List Removal) (after : Entries) : Prop where
  nodup : keys.Nodup
  reported : keys.map (reportOf cause before) = removals.map some
  get_eq : ∀ key : Key, after[key]? = if key ∈ keys then none else before[key]?

namespace Drops

variable {cause : RemovalCause} {before mid after : Entries} {keys more : List Key}
  {removals moreRemovals : List Removal}

theorem nil (cause : RemovalCause) (entries : Entries) : Drops cause entries [] [] entries where
  nodup := .nil
  reported := rfl
  get_eq key := by simp

theorem resident (h : Drops cause before keys removals after) {key : Key} (hkey : key ∈ keys) :
    ∃ entry, before[key]? = some entry := by
  have hreport : reportOf cause before key ∈ removals.map some :=
    h.reported ▸ List.mem_map_of_mem hkey
  obtain ⟨removal, _, hremoval⟩ := List.mem_map.mp hreport
  obtain ⟨entry, hget, _⟩ := Option.map_eq_some_iff.mp hremoval.symm
  exact ⟨entry, hget⟩

theorem trans (hfirst : Drops cause before keys removals mid)
    (hsecond : Drops cause mid more moreRemovals after) :
    Drops cause before (keys ++ more) (removals ++ moreRemovals) after := by
  -- What goes in the second part was not gone already.
  have hfresh : ∀ key ∈ more, key ∉ keys := by
    intro key hmore hkey
    obtain ⟨entry, hget⟩ := hsecond.resident hmore
    rw [hfirst.get_eq, if_pos hkey] at hget
    exact absurd hget (by simp)
  refine ⟨?_, ?_, ?_⟩
  · refine List.nodup_append.mpr ⟨hfirst.nodup, hsecond.nodup, ?_⟩
    rintro key hkey _ hmore rfl
    exact hfresh key hmore hkey
  · have hsame : more.map (reportOf cause before) = more.map (reportOf cause mid) := by
      apply List.map_congr_left
      intro key hmore
      rw [reportOf, reportOf, hfirst.get_eq, if_neg (hfresh key hmore)]
    rw [List.map_append, List.map_append, hsame, hfirst.reported, hsecond.reported]
  · intro key
    rw [hsecond.get_eq, hfirst.get_eq]
    simp only [List.mem_append]
    split <;> split <;> simp_all

theorem totalCost_eq (h : Drops cause before keys removals after) :
    totalCost after + (removals.map (·.cost)).sum = totalCost before := by
  induction keys generalizing before removals with
  | nil =>
    have hnone : removals = [] := by simpa using h.reported.symm
    subst hnone
    exact Map.total_congr (by simpa using h.get_eq)
  | cons key keys ih =>
    obtain ⟨entry, hget⟩ := h.resident List.mem_cons_self
    have hreported := h.reported
    obtain ⟨hkey, hnodup⟩ := List.nodup_cons.mp h.nodup
    cases removals with
    | nil => exact absurd hreported (by simp)
    | cons removal removals =>
      simp only [List.map_cons, List.cons.injEq, reportOf, hget, Option.map_some,
        Option.some.injEq] at hreported
      have hrest : Drops cause (before.erase key) keys removals after := by
        refine ⟨hnodup, ?_, fun other => ?_⟩
        · rw [← hreported.2]
          apply List.map_congr_left
          intro other hother
          have hne : key ≠ other := fun heq => hkey (heq ▸ hother)
          simp [reportOf, Map.get_erase, hne]
        · rw [h.get_eq, Map.get_erase]
          simp only [List.mem_cons]
          grind
      have hremoval : removal.cost = entry.cost := by rw [← hreported.1]; rfl
      rw [← totalCost_erase hget, ← ih hrest, List.map_cons, List.sum_cons, hremoval]
      omega

end Drops

namespace Shard

variable {s : Shard} {key : Key} {entry : Entry}

/-! ## Removals of given keys -/

theorem drops_removeEntry (cause : RemovalCause) (hget : s.entries[key]? = some entry) :
    Drops cause s.entries [key] [removalOf cause entry] (s.removeEntry key cause).2.entries where
  nodup := List.nodup_singleton key
  reported := by simp [reportOf, hget]
  get_eq other := by simp [get_removeEntry, eq_comm]

theorem drops_removeAll (cause : RemovalCause) {keys : List Key} (s : Shard) (hnodup : keys.Nodup)
    (hresident : ∀ key ∈ keys, ∃ entry, s.entries[key]? = some entry) :
    Drops cause s.entries keys (removeAll cause keys s).1 (removeAll cause keys s).2.entries := by
  induction keys generalizing s with
  | nil => exact .nil cause s.entries
  | cons key keys ih =>
    obtain ⟨hkey, hnodup⟩ := List.nodup_cons.mp hnodup
    obtain ⟨⟨entry, hget⟩, hothers⟩ := List.forall_mem_cons.mp hresident
    have hfirst := drops_removeEntry cause hget
    rw [removeAll_cons, removeEntry_fst, hget]
    apply hfirst.trans
    apply ih _ hnodup
    intro other hother
    have hne : key ≠ other := fun heq => hkey (heq ▸ hother)
    rw [get_removeEntry, if_neg hne]
    exact hothers other hother

/-! ## Chosen victims -/

def reportOfVictim (v : Victim) : Removal := ⟨v.hash, v.cost, .evicted⟩

theorem drops_victims {victims : List Victim} (hnodup : (victims.map (·.key)).Nodup)
    (hresidents : ∀ v ∈ victims, IsResident s.entries v) :
    (removeAll .evicted (victims.map (·.key)) s).1 = victims.map reportOfVictim ∧
      Drops .evicted s.entries (victims.map (·.key)) (victims.map reportOfVictim)
        (removeAll .evicted (victims.map (·.key)) s).2.entries := by
  have hresident : ∀ key ∈ victims.map (·.key), ∃ entry, s.entries[key]? = some entry := by
    simp only [List.forall_mem_map]
    intro v hv
    obtain ⟨entry, hget, -⟩ := hresidents v hv
    exact ⟨entry, hget⟩
  have hdrops := drops_removeAll .evicted s hnodup hresident
  have hreports : (victims.map (·.key)).map (reportOf .evicted s.entries) =
      (victims.map reportOfVictim).map some := by
    rw [List.map_map, List.map_map]
    apply List.map_congr_left
    intro v hv
    obtain ⟨entry, hget, hhash, hcost⟩ := hresidents v hv
    simp [reportOf, hget, removalOf, reportOfVictim, hhash, hcost]
  have hsame : (removeAll .evicted (victims.map (·.key)) s).1 = victims.map reportOfVictim := by
    apply List.map_injective_iff.mpr (Option.some_injective _)
    rw [← hdrops.reported, hreports]
  exact ⟨hsame, hsame ▸ hdrops⟩

theorem drops_chosen {frequency : UInt64 → Nat} {candidate : UInt64} {needed : Nat}
    {victims : List Victim} (h : Chosen s.entries frequency candidate needed victims) :
    (removeAll .evicted (victims.map (·.key)) s).1 = victims.map reportOfVictim ∧
      Drops .evicted s.entries (victims.map (·.key)) (victims.map reportOfVictim)
        (removeAll .evicted (victims.map (·.key)) s).2.entries :=
  drops_victims h.nodup h.resident

theorem freedBy_of_all_residents {victims : List Victim} (hnodup : (victims.map (·.key)).Nodup)
    (hresidents : ∀ v ∈ victims, IsResident s.entries v)
    (hall : ∀ (key : Key) (entry : Entry), s.entries[key]? = some entry →
      key ∈ victims.map (·.key)) :
    Admission.freedBy victims = totalCost s.entries := by
  have hdrops := (drops_victims hnodup hresidents).2
  have hempty : ∀ key : Key,
      (removeAll .evicted (victims.map (·.key)) s).2.entries[key]? = (∅ : Entries)[key]? := by
    intro key
    rw [hdrops.get_eq]
    cases hget : s.entries[key]? with
    | none => simp
    | some entry => simp [hall key entry hget]
  have htotal := hdrops.totalCost_eq
  rw [totalCost, Map.total_congr hempty, Map.total_empty, List.map_map] at htotal
  exact (Nat.zero_add _).symm.trans htotal

/-! ## The used cost -/

theorem Accounted.used_add_removals {t : Shard} {cause : RemovalCause} {keys : List Key}
    {removals : List Removal} (hs : s.Accounted) (ht : t.Accounted)
    (h : Drops cause s.entries keys removals t.entries) :
    t.used + (removals.map (·.cost)).sum = s.used := by
  rw [hs.used_eq, ht.used_eq, h.totalCost_eq]

end Shard

end LfuCache
