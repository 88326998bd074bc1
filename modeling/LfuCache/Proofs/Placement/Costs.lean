import Mathlib
import LfuCache.Proofs.Placement.Index

/-!
# Placements and the entries they place

`Places` ties a placement to the entries of a shard: it knows each resident once, in the
segment that the entry names, and its two costs are those of the entries. Each change of an
entry is matched by one change of the placement.
-/

namespace LfuCache

abbrev Entries := Std.TreeMap Key Entry

/-! ## Costs of entries -/

def Entry.costIn (segment : Segment) (entry : Entry) : Nat :=
  if entry.segment = segment then entry.cost else 0

def totalCost (entries : Entries) : Nat := Map.total (·.cost) entries

def segmentCost (segment : Segment) (entries : Entries) : Nat :=
  Map.total (Entry.costIn segment) entries

theorem totalCost_eq (entries : Entries) :
    totalCost entries = segmentCost .window entries + segmentCost .main entries := by
  rw [segmentCost, segmentCost, ← Map.total_add, totalCost]
  congr 1
  funext entry
  cases h : entry.segment <;> simp [Entry.costIn, h]

theorem totalCost_erase {entries : Entries} {key : Key} {entry : Entry}
    (h : entries[key]? = some entry) :
    totalCost (entries.erase key) + entry.cost = totalCost entries :=
  Map.total_erase h

theorem totalCost_insert_new {entries : Entries} {key : Key} (h : entries[key]? = none)
    (entry : Entry) : totalCost (entries.insert key entry) = totalCost entries + entry.cost :=
  Map.total_insert_new h

theorem totalCost_insert_over {entries : Entries} {key : Key} {entry : Entry}
    (h : entries[key]? = some entry) (new : Entry) :
    totalCost (entries.insert key new) + entry.cost = totalCost entries + new.cost :=
  Map.total_insert_over h

theorem totalCost_modify_segment {entries : Entries} {key : Key} {entry : Entry}
    (h : entries[key]? = some entry) (segment : Segment) :
    totalCost (entries.modify key fun e => { e with segment }) = totalCost entries :=
  Nat.add_right_cancel (Map.total_modify _ h)

theorem cost_le_totalCost {entries : Entries} {key : Key} {entry : Entry}
    (h : entries[key]? = some entry) : entry.cost ≤ totalCost entries := Map.le_total h

namespace Placement

/-- The placement knows each resident in its segment, and nobody else. -/
structure Places (p : Placement) (entries : Entries) : Prop where
  indexed : p.Indexed
  mem_iff : ∀ key segment,
    key ∈ p.keysIn segment ↔ (entries[key]?).map (·.segment) = some segment
  cost_eq : ∀ segment, p.costIn segment = segmentCost segment entries

theorem places_empty {p : Placement} (indexed : p.Indexed)
    (keys : ∀ segment, p.keysIn segment = []) (costs : ∀ segment, p.costIn segment = 0) :
    p.Places ∅ where
  indexed
  mem_iff key segment := by simp [keys]
  cost_eq segment := by simp [costs, segmentCost]

namespace Places

variable {p : Placement} {entries : Entries} {key : Key} {entry : Entry}

theorem congr {other : Entries} (h : p.Places entries)
    (hget : ∀ k : Key, other[k]? = entries[k]?) : p.Places other where
  indexed := h.indexed
  mem_iff k segment := by rw [h.mem_iff, hget]
  cost_eq segment := by rw [h.cost_eq, segmentCost, segmentCost, Map.total_congr hget]

theorem mem_of_get (h : p.Places entries) (hget : entries[key]? = some entry) :
    key ∈ p.keysIn entry.segment := by
  rw [h.mem_iff, hget]
  rfl

theorem withRandom (h : p.Places entries) (random : Generator) :
    { p with random }.Places entries where
  indexed := ⟨h.indexed.window_slot, h.indexed.arrival_lt, h.indexed.main_slot⟩
  mem_iff k segment := by rw [← h.mem_iff]; cases segment <;> rfl
  cost_eq segment := by rw [← h.cost_eq]; cases segment <;> rfl

theorem erase (h : p.Places entries) (hget : entries[key]? = some entry) :
    (p.remove key entry.segment entry.cost).Places (entries.erase key) where
  indexed := h.indexed.remove key entry.segment entry.cost
  mem_iff other place := by
    rw [mem_keysIn_remove h.indexed, h.mem_iff, Map.get_erase]
    by_cases hkey : key = other
    · subst hkey
      simp [hget]
      tauto
    · simp [hkey, Ne.symm hkey]
  cost_eq place := by
    have herase := Map.total_erase (w := Entry.costIn place) hget
    rw [costIn_remove h.indexed place entry.cost (h.mem_of_get hget), h.cost_eq, segmentCost,
      ← herase, segmentCost, Entry.costIn]
    simp [eq_comm]

theorem insert (h : p.Places entries) (hnew : entries[key]? = none) (entry : Entry) :
    (p.insert key entry.segment entry.cost).Places (entries.insert key entry) where
  indexed := by
    apply h.indexed.insert
    rw [h.mem_iff, hnew]
    simp
  mem_iff other place := by
    rw [mem_keysIn_insert h.indexed, h.mem_iff, Map.get_insert]
    by_cases hkey : key = other
    · subst hkey
      simp [hnew, eq_comm]
    · simp [hkey, Ne.symm hkey]
  cost_eq place := by
    rw [costIn_insert, h.cost_eq, segmentCost, segmentCost, Map.total_insert_new hnew,
      Entry.costIn]
    simp [eq_comm]

theorem adjust (h : p.Places entries) (hget : entries[key]? = some entry) (new : Entry)
    (hsegment : new.segment = entry.segment) :
    (p.adjustCost entry.segment entry.cost new.cost).Places (entries.insert key new) where
  indexed := h.indexed.adjustCost entry.segment entry.cost new.cost
  mem_iff other place := by
    rw [keysIn_adjustCost, h.mem_iff, Map.get_insert]
    by_cases hkey : key = other
    · subst hkey
      simp [hget, hsegment]
    · simp [hkey]
  cost_eq place := by
    have hover := Map.total_insert_over (w := Entry.costIn place) (v := new) hget
    have hle := Map.le_total (w := Entry.costIn place) hget
    rw [costIn_adjustCost, h.cost_eq]
    simp only [segmentCost, Entry.costIn, hsegment] at hover hle ⊢
    by_cases hplace : place = entry.segment
    · subst hplace
      simp only [if_true] at hover hle ⊢
      omega
    · rw [if_neg hplace]
      simp only [Ne.symm hplace, if_false] at hover
      omega

theorem promote (h : p.Places entries) (hget : entries[key]? = some entry)
    (hwindow : entry.segment = .window) :
    (p.promote key entry.cost).1 = true ∧
      (p.promote key entry.cost).2.Places
        (entries.modify key fun entry => { entry with segment := .main }) := by
  have hmem : key ∈ p.keysIn .window := hwindow ▸ h.mem_of_get hget
  have hout : (entries.erase key)[key]? = none := by simp
  have hmoved := (h.erase hget).insert hout { entry with segment := .main }
  rw [promote_of_mem h.indexed entry.cost hmem]
  rw [hwindow] at hmoved
  refine ⟨rfl, hmoved.congr fun k => ?_⟩
  simp only [Map.get_modify, Map.get_insert, Map.get_erase, hget]
  by_cases hk : key = k <;> simp [hk]

end Places

end Placement

end LfuCache
