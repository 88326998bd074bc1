import Mathlib
import LfuCache.Proofs.Shard.Eviction

/-!
# The contents of a shard

Where an entry is placed is nobody's business outside. What is left of it is its content, and
a shard is a map from keys to contents. Here is what each operation does to that map.
-/

namespace LfuCache

/-- An entry without its place. -/
structure Content where
  value : ByteArray
  cost : Nat
  hash : UInt64
  expiresAt : Option Instant

namespace Content

def isExpired (content : Content) (now : Instant) : Bool := expiredAt content.expiresAt now

def report (cause : RemovalCause) (content : Content) : Removal :=
  ⟨content.hash, content.cost, cause⟩

/-- The cause of a removal that was asked for. -/
def deletionCause (now : Instant) (content : Content) : RemovalCause :=
  if content.isExpired now then .expired else .deleted

/-- The content, unless its time is over. -/
def live (now : Instant) (content : Option Content) : Option Content :=
  content.filter fun c => !c.isExpired now

def stale (now : Instant) (content : Option Content) : Option Content :=
  content.filter fun c => c.isExpired now

variable {now : Instant} {c : Content}

theorem eq_some_of_live {content : Option Content} (h : live now content = some c) :
    content = some c := (Option.filter_eq_some_iff.mp h).1

@[simp]
theorem live_none (now : Instant) : live now none = none := rfl

@[simp]
theorem stale_none (now : Instant) : stale now none = none := rfl

theorem split_of_expired (h : c.isExpired now = true) :
    live now (some c) = none ∧ stale now (some c) = some c := by
  simp [live, stale, h]

theorem split_of_unexpired (h : c.isExpired now = false) :
    live now (some c) = some c ∧ stale now (some c) = none := by
  simp [live, stale, h]

theorem live_eq (now : Instant) (content : Option Content) :
    live now content = if (stale now content).isSome then none else content := by
  cases content with
  | none => rfl
  | some c =>
    cases h : c.isExpired now with
    | true =>
      obtain ⟨hlive, hstale⟩ := split_of_expired h
      rw [hlive, hstale]
      rfl
    | false =>
      obtain ⟨hlive, hstale⟩ := split_of_unexpired h
      rw [hlive, hstale]
      rfl

end Content

def Entry.content (entry : Entry) : Content :=
  ⟨entry.value, entry.cost, entry.hash, entry.expiresAt⟩

abbrev Contents := Key → Option Content

namespace Contents

variable {m : Contents} {cause : RemovalCause} {key : Key} {keys : List Key}
  {removals : List Removal}

def without (m : Contents) (keys : List Key) : Contents :=
  fun key => if keys.contains key then none else m key

theorem without_apply (m : Contents) (keys : List Key) (key : Key) :
    m.without keys key = if key ∈ keys then none else m key := by
  simp only [without, List.contains_iff_mem]

@[simp]
theorem without_nil (m : Contents) : m.without [] = m := by
  funext key
  simp [without_apply]

theorem without_update (h : key ∉ keys) (m : Contents) (content : Option Content) :
    without (Function.update m key content) keys =
      Function.update (m.without keys) key content := by
  funext other
  simp only [without_apply, Function.update_apply]
  by_cases hkey : other = key
  · subst hkey
    rw [if_neg h, if_pos rfl, if_pos rfl]
  · simp only [if_neg hkey]

/-- Distinct keys with a report for each of them, in order. -/
structure Reports (m : Contents) (cause : RemovalCause) (keys : List Key)
    (removals : List Removal) : Prop where
  nodup : keys.Nodup
  reported : keys.map (fun key => (m key).map (Content.report cause)) = removals.map some

theorem Reports.nil (m : Contents) (cause : RemovalCause) : m.Reports cause [] [] :=
  ⟨.nil, rfl⟩

theorem Reports.holds (h : m.Reports cause keys removals) (hkey : key ∈ keys) : m key ≠ none := by
  intro hnone
  have hmem : (m key).map (Content.report cause) ∈ removals.map some :=
    h.reported ▸ List.mem_map_of_mem hkey
  rw [hnone] at hmem
  exact absurd hmem (by simp)

theorem Reports.append {more : List Key} {moreRemovals : List Removal}
    (hdisjoint : keys.Disjoint more) (h : m.Reports cause keys removals)
    (hmore : m.Reports cause more moreRemovals) :
    m.Reports cause (keys ++ more) (removals ++ moreRemovals) where
  nodup := h.nodup.append hmore.nodup hdisjoint
  reported := by rw [List.map_append, List.map_append, h.reported, hmore.reported]

theorem Reports.flatMap {ι : Type} {parts : List ι} {keysOf : ι → List Key}
    {removalsOf : ι → List Removal} (h : ∀ x ∈ parts, m.Reports cause (keysOf x) (removalsOf x))
    (hdisjoint : parts.Pairwise fun x y => (keysOf x).Disjoint (keysOf y)) :
    m.Reports cause (parts.flatMap keysOf) (parts.flatMap removalsOf) := by
  induction parts with
  | nil => exact .nil m cause
  | cons x parts ih =>
    obtain ⟨hx, hparts⟩ := List.forall_mem_cons.mp h
    obtain ⟨hapart, hrest⟩ := List.pairwise_cons.mp hdisjoint
    rw [List.flatMap_cons, List.flatMap_cons]
    refine .append ?_ hx (ih hparts hrest)
    intro key hkey hmore
    obtain ⟨y, hy, hin⟩ := List.mem_flatMap.mp hmore
    exact hapart y hy hkey hin

theorem Reports.congr {n : Contents} (h : m.Reports cause keys removals)
    (hsame : ∀ key ∈ keys, n key = m key) : n.Reports cause keys removals where
  nodup := h.nodup
  reported := by
    rw [← h.reported]
    apply List.map_congr_left
    intro key hkey
    rw [hsame key hkey]

theorem Reports.of_update {content : Option Content} (hkey : key ∉ keys)
    (h : Reports (Function.update m key content) cause keys removals) :
    m.Reports cause keys removals := by
  apply h.congr
  intro other hother
  have hne : other ≠ key := fun heq => hkey (heq ▸ hother)
  rw [Function.update_of_ne hne]

end Contents

namespace Shard

def contents (s : Shard) : Contents := fun key => (s.entries[key]?).map Entry.content

variable {s t : Shard} {frequency : UInt64 → Nat} {key : Key} {entry : Entry}

theorem contents_of_get (h : s.entries[key]? = some entry) :
    s.contents key = some entry.content := by
  rw [contents, h, Option.map_some]

theorem contents_eq_none_iff : s.contents key = none ↔ s.entries[key]? = none := by
  rw [contents, Option.map_eq_none_iff]

theorem reportOf_eq (cause : RemovalCause) (s : Shard) (key : Key) :
    reportOf cause s.entries key = (s.contents key).map (Content.report cause) := by
  rw [reportOf, contents, Option.map_map]
  rfl

/-! ## Steps -/

theorem contents_removeEntry (s : Shard) (key : Key) (cause : RemovalCause) :
    (s.removeEntry key cause).2.contents = Function.update s.contents key none := by
  funext other
  rw [contents, get_removeEntry, Function.update_apply]
  simp only [eq_comm]
  split
  · rfl
  · rfl

theorem removeEntry_report (s : Shard) (key : Key) (cause : RemovalCause) :
    (s.removeEntry key cause).1 = (s.contents key).map (Content.report cause) := by
  rw [removeEntry_fst, ← reportOf_eq, reportOf]

theorem contents_of_drops {cause : RemovalCause} {keys : List Key} {removals : List Removal}
    (h : Drops cause s.entries keys removals t.entries) :
    s.contents.Reports cause keys removals ∧ t.contents = s.contents.without keys := by
  constructor
  · refine ⟨h.nodup, ?_⟩
    rw [← h.reported]
    apply List.map_congr_left
    intro key _
    rw [reportOf_eq]
  · funext other
    rw [contents, h.get_eq, Contents.without_apply]
    split
    · rfl
    · rfl

theorem contents_promote (s : Shard) (key : Key) (cost : Nat) :
    (s.promote key cost).contents = s.contents := by
  funext other
  obtain ⟨segment, hget⟩ := get_promote s key other cost
  rw [contents, hget, Option.map_map]
  rfl

theorem contents_touch (s : Shard) (frequency : UInt64 → Nat) (key : Key) (entry : Entry)
    (hash : UInt64) : (s.touch frequency key entry hash).contents = s.contents := by
  unfold touch
  split
  · exact contents_promote s key entry.cost
  · rfl

theorem contents_rewrite {content : Content} (hget : s.contents key = some content)
    (value : ByteArray) (cost : Nat) (expiresAt : Option Instant) :
    (s.rewrite key value cost expiresAt).contents =
      Function.update s.contents key (some ⟨value, cost, content.hash, expiresAt⟩) := by
  obtain ⟨entry, hentry, rfl⟩ := Option.map_eq_some_iff.mp hget
  have hrevise : (s.revise key entry value cost expiresAt).contents =
      Function.update s.contents key (some ⟨value, cost, entry.hash, expiresAt⟩) := by
    funext other
    rw [contents, revise, Map.get_insert, Function.update_apply]
    simp only [eq_comm]
    split
    · rfl
    · rfl
  simp only [rewrite, hentry]
  split
  · rw [contents_promote, hrevise]
    rfl
  · exact hrevise

theorem contents_touched (hget : s.entries[key]? = some entry) (frequency : UInt64 → Nat)
    (hash : UInt64) : (s.touch frequency key entry hash).contents key = some entry.content := by
  rw [contents_touch, contents_of_get hget]

theorem contents_rewritten (hget : s.entries[key]? = some entry) (frequency : UInt64 → Nat)
    (hash : UInt64) (value : ByteArray) (cost : Nat) (expiresAt : Option Instant) :
    ((s.touch frequency key entry hash).rewrite key value cost expiresAt).contents =
      Function.update s.contents key (some ⟨value, cost, entry.hash, expiresAt⟩) := by
  rw [contents_rewrite (contents_touched hget frequency hash), contents_touch]
  rfl

theorem contents_store (s : Shard) (key : Key) (hash : UInt64) (value : ByteArray) (cost : Nat)
    (expiresAt : Option Instant) :
    (s.store key hash value cost expiresAt).contents =
      Function.update s.contents key (some ⟨value, cost, hash, expiresAt⟩) := by
  funext other
  rw [contents, store, Map.get_insert, Function.update_apply]
  simp only [eq_comm]
  split
  · rfl
  · rfl

/-! ## Reads and deletes -/

theorem get_contents (s : Shard) (frequency : UInt64 → Nat) (key : Key) (now : Instant) :
    (s.get frequency key now).1.value = (Content.live now (s.contents key)).map (·.value) ∧
      (s.get frequency key now).1.expired =
        (Content.stale now (s.contents key)).map (Content.report .expired) ∧
      (s.get frequency key now).2.contents =
        Function.update s.contents key (Content.live now (s.contents key)) := by
  cases hget : s.entries[key]? with
  | none =>
    have hnone : s.contents key = none := contents_eq_none_iff.mpr hget
    have hupdate : Function.update s.contents key none = s.contents := by
      rw [← hnone, Function.update_eq_self]
    simp only [get, hget, hnone, Content.live_none, hupdate]
    exact ⟨rfl, rfl, rfl⟩
  | some entry =>
    have hsome : s.contents key = some entry.content := contents_of_get hget
    by_cases hexpired : entry.isExpired now = true
    · obtain ⟨hlive, hstale⟩ := Content.split_of_expired (c := entry.content) hexpired
      simp only [get, hget, if_pos hexpired]
      rw [hsome, hlive, hstale]
      refine ⟨rfl, ?_, contents_removeEntry _ _ _⟩
      rw [removeEntry_report]
      exact congrArg _ hsome
    · obtain ⟨hlive, hstale⟩ := Content.split_of_unexpired (c := entry.content)
        (Bool.eq_false_iff.mpr hexpired)
      have hupdate : Function.update s.contents key (some entry.content) = s.contents := by
        rw [← hsome, Function.update_eq_self]
      simp only [get, hget, if_neg hexpired]
      rw [hsome, hlive, hstale, hupdate]
      exact ⟨rfl, rfl, contents_touch _ _ _ _ _⟩

theorem delete_contents (s : Shard) (key : Key) (now : Instant) :
    (s.delete key now).1 = (s.contents key).map (fun c => c.report (c.deletionCause now)) ∧
      (s.delete key now).2.contents = Function.update s.contents key none := by
  cases hget : s.entries[key]? with
  | none =>
    have hnone : s.contents key = none := contents_eq_none_iff.mpr hget
    have hupdate : Function.update s.contents key none = s.contents := by
      rw [← hnone, Function.update_eq_self]
    simp only [delete, hget, hnone, hupdate, Option.map_none, and_self]
  | some entry =>
    have hsome : s.contents key = some entry.content := contents_of_get hget
    simp only [delete, hget]
    refine ⟨?_, contents_removeEntry _ _ _⟩
    rw [removeEntry_report, hsome]
    rfl

theorem clear_contents (s : Shard) : s.clear.2.contents = fun _ => none := by
  funext key
  simp [clear, contents]

/-! ## Writes -/

theorem set_contents_of_refused {hash : UInt64} {value : ByteArray} {cost : Nat}
    {expiresAt : Option Instant} {now : Instant} {result : SetResult}
    (h : s.set frequency key hash value cost expiresAt now = .ok (result, t))
    (hrefused : result.admitted = false) :
    result.removed = ((s.contents key).map (Content.report .expired)).toList ∧
      t.contents = Function.update s.contents key none := by
  have hsets := s.set_sets frequency key hash value cost expiresAt now
  rw [h] at hsets
  rw [← removeEntry_report, ← contents_removeEntry s key .expired]
  cases hsets with
  | tooLate => exact ⟨rfl, rfl⟩
  | new _ _ _ hadmits =>
    cases hadmits with
    | fits => exact absurd hrefused (by simp)
    | displace => exact absurd hrefused (by simp)
    | refuse => exact ⟨List.append_nil _, rfl⟩
  | live => exact absurd hrefused (by simp)

theorem contents_of_admits {hash : UInt64} {value : ByteArray} {cost : Nat}
    {expiresAt : Option Instant} {result : SetResult} (hnone : s.contents key = none)
    (h : s.Admits frequency key hash value cost expiresAt result t)
    (hadmitted : result.admitted = true) :
    ∃ evicted, key ∉ evicted ∧ s.contents.Reports .evicted evicted result.removed ∧
      t.contents = Function.update (s.contents.without evicted) key
        (some ⟨value, cost, hash, expiresAt⟩) := by
  cases h with
  | fits =>
    refine ⟨[], by simp, .nil _ _, ?_⟩
    rw [Contents.without_nil]
    exact contents_store s key hash value cost expiresAt
  | refuse => exact absurd hadmitted (by simp)
  | @displace placement victims _ hdraws hchosen =>
    obtain ⟨hremovals, hdrops⟩ := drops_chosen (s := { s with placement }) hchosen
    obtain ⟨hreports, hcontents⟩ := contents_of_drops hdrops
    rw [← hremovals] at hreports
    refine ⟨_, ?_, hreports, ?_⟩
    · intro hkey
      obtain ⟨entry, hget⟩ := hdrops.resident hkey
      have hsome : s.contents key = some entry.content := contents_of_get hget
      rw [hsome] at hnone
      exact absurd hnone (by simp)
    · have hstore := contents_store (removeAll .evicted (victims.map (·.key))
        { s with placement }).2 key hash value cost expiresAt
      rw [hcontents] at hstore
      exact hstore

theorem vacant_iff_live {now : Instant} :
    s.Vacant key now ↔ Content.live now (s.contents key) = none := by
  cases hget : s.entries[key]? with
  | none => simp [Vacant, hget, contents_eq_none_iff.mpr hget]
  | some entry =>
    have hsame : entry.content.isExpired now = entry.isExpired now := rfl
    rw [contents_of_get hget]
    simp [Vacant, hget, Content.live, hsame]

theorem stale_of_vacant {now : Instant} (h : s.Vacant key now) :
    Content.stale now (s.contents key) = s.contents key := by
  cases hget : s.entries[key]? with
  | none => rw [contents_eq_none_iff.mpr hget, Content.stale_none]
  | some entry =>
    rw [contents_of_get hget]
    exact (Content.split_of_expired (c := entry.content) (h entry hget)).2

theorem stale_of_live {now : Instant} (hget : s.entries[key]? = some entry)
    (hlive : entry.isExpired now = false) : Content.stale now (s.contents key) = none := by
  rw [contents_of_get hget]
  exact (Content.split_of_unexpired (c := entry.content) hlive).2

theorem set_contents_of_admitted {hash : UInt64} {value : ByteArray} {cost : Nat}
    {expiresAt : Option Instant} {now : Instant} {result : SetResult}
    (hhash : ∀ content, s.contents key = some content → content.hash = hash)
    (h : s.set frequency key hash value cost expiresAt now = .ok (result, t))
    (hadmitted : result.admitted = true) :
    ∃ evicted removals, key ∉ evicted ∧ s.contents.Reports .evicted evicted removals ∧
      result.removed =
        ((Content.stale now (s.contents key)).map (Content.report .expired)).toList ++ removals ∧
      t.contents = Function.update (s.contents.without evicted) key
        (some ⟨value, cost, hash, expiresAt⟩) := by
  have hsets := s.set_sets frequency key hash value cost expiresAt now
  rw [h] at hsets
  cases hsets with
  | tooLate => exact absurd hadmitted (by simp)
  | @new inner _ _ _ hvacant hadmits =>
    have hcleared := contents_removeEntry s key .expired
    have hnone : (s.removeEntry key .expired).2.contents key = none := by
      rw [hcleared, Function.update_self]
    obtain ⟨evicted, hkey, hreports, hcontents⟩ := contents_of_admits hnone hadmits hadmitted
    rw [hcleared] at hreports hcontents
    refine ⟨evicted, inner.removed, hkey, hreports.of_update hkey, ?_, ?_⟩
    · rw [stale_of_vacant hvacant, removeEntry_report]
    · rw [hcontents, Contents.without_update hkey, Function.update_idem]
  | @live entry _ _ hget hlive =>
    have hsome := contents_of_get hget
    have hsame : entry.hash = hash := hhash entry.content hsome
    have hrewrite := contents_rewritten hget frequency hash value cost expiresAt
    rw [hsame] at hrewrite
    obtain ⟨evicted, hkey, hdrops⟩ := drops_shrink frequency key
      ((s.touch frequency key entry hash).rewrite key value cost expiresAt).size
      ((s.touch frequency key entry hash).rewrite key value cost expiresAt)
    obtain ⟨hreports, hcontents⟩ := contents_of_drops hdrops
    rw [hrewrite] at hreports hcontents
    refine ⟨evicted, _, hkey, hreports.of_update hkey, ?_, ?_⟩
    · rw [stale_of_live hget hlive]
      rfl
    · rw [← Contents.without_update hkey]
      exact hcontents

/-! ## Sweeps -/

theorem mem_expiredKeys {now : Instant} :
    key ∈ s.expiredKeys now ↔ (Content.stale now (s.contents key)).isSome := by
  simp only [expiredKeys, List.mem_map, List.mem_filter, Prod.exists,
    Std.TreeMap.mem_toList_iff_getElem?_eq_some]
  cases hget : s.entries[key]? with
  | none =>
    rw [contents_eq_none_iff.mpr hget]
    simp [hget]
  | some entry =>
    have hsame : entry.content.isExpired now = entry.isExpired now := rfl
    rw [contents_of_get hget]
    simp [Content.stale, hget, hsame]

theorem nodup_expiredKeys (s : Shard) (now : Instant) : (s.expiredKeys now).Nodup := by
  have hkeys : (s.entries.toList.map (·.1)).Nodup := by
    rw [Std.TreeMap.map_fst_toList_eq_keys]
    exact Std.TreeMap.nodup_keys
  exact hkeys.sublist (List.filter_sublist.map _)

theorem sweep_contents (s : Shard) (order : SweepOrder) (now : Instant) :
    (∀ key, key ∈ order.arrange (s.expiredKeys now) ↔
        (Content.stale now (s.contents key)).isSome) ∧
      s.contents.Reports .expired (order.arrange (s.expiredKeys now))
        (s.removeExpiredIn order now).1 ∧
      (s.removeExpiredIn order now).2.contents = fun key => Content.live now (s.contents key) := by
  have hperm := order.perm (s.expiredKeys now)
  have hmem : ∀ key, key ∈ order.arrange (s.expiredKeys now) ↔
      (Content.stale now (s.contents key)).isSome := by
    intro key
    rw [hperm.mem_iff, mem_expiredKeys]
  have hresident : ∀ key ∈ order.arrange (s.expiredKeys now),
      ∃ entry, s.entries[key]? = some entry := by
    intro key hkey
    cases hget : s.entries[key]? with
    | none =>
      have hnone := (hmem key).mp hkey
      rw [contents_eq_none_iff.mpr hget] at hnone
      exact absurd hnone (by simp)
    | some entry => exact ⟨entry, rfl⟩
  have hdrops := drops_removeAll .expired s (hperm.nodup_iff.mpr (s.nodup_expiredKeys now))
    hresident
  obtain ⟨hreports, hcontents⟩ := contents_of_drops hdrops
  refine ⟨hmem, hreports, ?_⟩
  rw [removeExpiredIn, hcontents]
  funext key
  rw [Contents.without_apply, Content.live_eq]
  simp only [hmem]

end Shard

end LfuCache
