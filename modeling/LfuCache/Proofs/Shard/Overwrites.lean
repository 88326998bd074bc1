import Mathlib
import LfuCache.Proofs.Shard.Promotion

/-!
# Writing over a live entry

The entry is changed first, and that may leave the shard with too much. Then others go, one
each turn, and each is the least frequent of what its turn has sampled. The entry itself stays.
-/

namespace LfuCache.Shard

open Admission

variable {s t : Shard} {frequency : UInt64 → Nat} {key keep : Key} {old : Entry} {hash : UInt64}
  {value : ByteArray} {cost : Nat} {expiresAt : Option Instant} {now : Instant} {v : Victim}
  {victims : List Victim}

/-! ## Turns -/

namespace Turns

theorem used_add_freed (h : Turns frequency keep s victims t) (hs : s.Accounted) :
    t.used + freedBy victims = s.used := by
  have hused := hs.used_add_removals (hs.changes h.changes) h.drops
  rw [List.map_map] at hused
  exact hused

theorem size_add_length (h : Turns frequency keep s victims t) :
    t.size + victims.length = s.size := by
  induction h with
  | stop => rfl
  | turn _ hvictim _ ih =>
    have hsize := size_afterTurn hvictim
    rw [List.length_cons]
    omega

theorem over_without_last (h : Turns frequency keep s victims t) (hs : s.Accounted)
    (hne : victims ≠ []) : s.capacity + freedBy victims.dropLast < s.used := by
  rw [← List.dropLast_append_getLast hne] at h
  obtain ⟨u, hturns, hover, -⟩ := h.split
  have hused := hturns.used_add_freed hs
  have hcapacity := (SameSettings.of_changes hturns.changes).capacity
  omega

end Turns

/-- The next sample names this victim, and nobody in it is used less. -/
def LeastSampled (s : Shard) (frequency : UInt64 → Nat) (keep : Key) (v : Victim) : Prop :=
  v ∈ (sampleVictims s.entries [keep] s.placement).1 ∧
    ∀ other ∈ (sampleVictims s.entries [keep] s.placement).1,
      frequency v.hash ≤ frequency other.hash

theorem leastSampled_nextVictim (h : s.nextVictim frequency keep = some v) :
    s.LeastSampled frequency keep v :=
  ⟨weakest_mem h, fun _ hother => weakest_le h hother⟩

/-! ## The whole loop -/

/-- Where the loop comes to rest: the shard has room, or the last sample was empty. -/
inductive Rests (keep : Key) : Shard → Shard → Prop where
  | room {s : Shard} : s.used ≤ s.capacity → Rests keep s s
  | nobody {s : Shard} : s.capacity < s.used → (s.placement.sample [keep]).1 = [] →
    Rests keep s (s.sampled keep)

/-- What the loop does with its victims. -/
structure Shrinks (s : Shard) (frequency : UInt64 → Nat) (keep : Key) (victims : List Victim)
    (t : Shard) : Prop where
  nodup : (victims.map (·.key)).Nodup
  resident : ∀ v ∈ victims, IsResident s.entries v ∧ v.key ≠ keep
  get_eq : ∀ key : Key, t.entries[key]? =
    if key ∈ victims.map (·.key) then none else s.entries[key]?
  used_eq : t.used + freedBy victims = s.used
  no_spare : victims ≠ [] → s.capacity + freedBy victims.dropLast < s.used
  /-- Each victim goes in a turn of its own, as the least frequent of what that turn samples. -/
  least : ∀ before v after, victims = before ++ v :: after → ∃ u,
    Turns frequency keep s before u ∧ s.capacity < u.used ∧ u.LeastSampled frequency keep v
  rests : ∃ last, Turns frequency keep s victims last ∧ Rests keep last t

theorem rests_of_halts {left : Nat} {last : Shard} (hs : s.Accounted)
    (hkeep : s.entries[keep]? ≠ none) (hturns : Turns frequency keep s victims last)
    (hcount : victims.length + left = s.size) (h : Halts frequency keep left last t) :
    Rests keep last t := by
  have hlast : last.Accounted := hs.changes hturns.changes
  cases h with
  | room _ hroom => exact .room hroom
  | stuck _ hover hnone =>
    rw [nextVictim, weakest_eq_none_iff, sampleVictims_eq_nil_iff hlast.places] at hnone
    exact .nobody hover hnone
  | spent =>
    -- The key to keep is one of the residents, so they are not all taken.
    obtain ⟨kept, hkept⟩ := Option.ne_none_iff_exists'.mp hkeep
    have hget := hturns.drops.get_eq keep
    rw [if_neg hturns.keep_notMem, hkept] at hget
    have hone := Map.size_erase hget
    have hsize := hturns.size_add_length
    rw [size] at hsize
    omega

theorem shrinks_shrink (hs : s.Accounted) (hkeep : s.entries[keep]? ≠ none)
    (frequency : UInt64 → Nat) :
    ∃ victims, (shrink frequency keep s.size s).1 = victims.map reportOfVictim ∧
      s.Shrinks frequency keep victims (shrink frequency keep s.size s).2 := by
  obtain ⟨victims, last, left, hturns, hcount, hreports, hhalts⟩ :=
    shrink_turns frequency keep s.size s
  have hdrops := hturns.drops
  refine ⟨victims, hreports, ?_⟩
  constructor
  case nodup => exact hdrops.nodup
  case resident => exact hturns.resident
  case get_eq =>
    rw [hhalts.entries_eq]
    exact hdrops.get_eq
  case used_eq =>
    rw [hhalts.used_eq]
    exact hturns.used_add_freed hs
  case no_spare => exact hturns.over_without_last hs
  case least =>
    rintro before v after rfl
    obtain ⟨u, hbefore, hover, hvictim⟩ := hturns.split
    rw [(SameSettings.of_changes hbefore.changes).capacity] at hover
    exact ⟨u, hbefore, hover, leastSampled_nextVictim hvictim⟩
  case rests => exact ⟨last, hturns, rests_of_halts hs hkeep hturns hcount hhalts⟩

/-! ## The whole write -/

theorem used_rewrite (hget : s.entries[key]? = some old) (value : ByteArray) (cost : Nat)
    (expiresAt : Option Instant) :
    (s.rewrite key value cost expiresAt).used = s.used - old.cost + cost := by
  rw [rewrite_of_get hget]
  split
  · rw [used_promote]
    rfl
  · rfl

/-- What a write over an old entry does, with those who go for it. -/
structure Overwrites (s : Shard) (frequency : UInt64 → Nat) (key : Key) (old : Entry)
    (hash : UInt64) (value : ByteArray) (cost : Nat) (expiresAt : Option Instant)
    (victims : List Victim) (t : Shard) : Prop where
  written : t.entries[key]? = some ⟨value, cost, old.hash, expiresAt,
    if seenBefore frequency hash ∨ s.Outgrows old cost then .main else old.segment⟩
  nodup : (victims.map (·.key)).Nodup
  resident : ∀ v ∈ victims, IsResident s.entries v ∧ v.key ≠ key
  others : ∀ other ≠ key, t.entries[other]? =
    if other ∈ victims.map (·.key) then none else s.entries[other]?
  used_eq : t.used + freedBy victims = s.used - old.cost + cost
  capacity_eq : t.capacity = s.capacity
  idle : s.used - old.cost + cost ≤ s.capacity → victims = []
  /-- Without the last victim there would be no room. -/
  no_spare : victims ≠ [] → s.capacity + freedBy victims.dropLast < s.used - old.cost + cost
  /-- The victims go in turns, once the entry is changed. -/
  turns : ∃ final,
    ((s.touch frequency key old hash).rewrite key value cost expiresAt).Shrinks frequency key
      victims final ∧ t = final.record .set

theorem overwrites_overwrite (hs : s.Accounted) (hget : s.entries[key]? = some old)
    (frequency : UInt64 → Nat) (hash : UInt64) (value : ByteArray) (cost : Nat)
    (expiresAt : Option Instant) :
    ∃ victims,
      (s.overwrite frequency key old hash value cost expiresAt).1 =
        ⟨true, victims.map reportOfVictim⟩ ∧
      s.Overwrites frequency key old hash value cost expiresAt victims
        (s.overwrite frequency key old hash value cost expiresAt).2 := by
  have hchanges := changes_rewritten hget frequency hash value cost expiresAt
  have hcapacity := (SameSettings.of_changes hchanges).capacity
  have hself := get_rewritten_self hs hget frequency hash value cost expiresAt
  have hused : ((s.touch frequency key old hash).rewrite key value cost expiresAt).used =
      s.used - old.cost + cost := by
    rw [used_rewrite (get_touch_self hs hget frequency hash), used_touch]
  have hothers : ∀ other ≠ key,
      ((s.touch frequency key old hash).rewrite key value cost expiresAt).entries[other]? =
        s.entries[other]? :=
    fun other hne => get_rewritten_of_ne hne s frequency old hash value cost expiresAt
  obtain ⟨victims, hreports, h⟩ :=
    shrinks_shrink (hs.changes hchanges) (hself ▸ Option.some_ne_none _) frequency
  have hstays : key ∉ victims.map (·.key) := notMem_keys fun v hv => (h.resident v hv).2
  have hspare : victims ≠ [] →
      s.capacity + freedBy victims.dropLast < s.used - old.cost + cost := by
    rw [← hcapacity, ← hused]
    exact h.no_spare
  refine ⟨victims, congrArg (SetResult.mk true) hreports, ?_⟩
  constructor
  case written => exact (h.get_eq key).trans (by rw [if_neg hstays, hself])
  case nodup => exact h.nodup
  case resident =>
    intro v hv
    obtain ⟨⟨entry, hentry, hsame⟩, hne⟩ := h.resident v hv
    exact ⟨⟨entry, hothers v.key hne ▸ hentry, hsame⟩, hne⟩
  case others =>
    intro other hne
    exact hothers other hne ▸ h.get_eq other
  case used_eq => exact h.used_eq.trans hused
  case capacity_eq => exact (SameSettings.of_changes (changes_overwrite hget _ _ _ _)).capacity
  case idle =>
    intro hroom
    by_contra hne
    have hspare := hspare hne
    omega
  case no_spare => exact hspare
  case turns => exact ⟨_, h, rfl⟩

/-- A write over a live entry, with a cost that the shard can hold and a time to live, is always
let in. The key stays, and others go only while there is too much. -/
theorem overwrite_keeps_key_and_evicts_least_sampled (hs : s.Accounted)
    (hget : s.entries[key]? = some old) (hlive : old.isExpired now = false)
    (hcost : cost ≤ s.capacity) (hearly : expiredAt expiresAt now = false)
    (frequency : UInt64 → Nat) (hash : UInt64) (value : ByteArray) :
    ∃ victims t,
      s.set frequency key hash value cost expiresAt now =
        .ok (⟨true, victims.map reportOfVictim⟩, t) ∧
      s.Overwrites frequency key old hash value cost expiresAt victims t := by
  obtain ⟨victims, hresult, h⟩ := overwrites_overwrite hs hget frequency hash value cost expiresAt
  refine ⟨victims, _, ?_, h⟩
  rw [set_live hcost hearly hget hlive, ← hresult]

/-- One of three keys in a full shard is given two units more, and one neighbour has to go. -/
theorem grown_key_stays_in_full_shard :
    let put (key : UInt8) : ShardCall := .set (fun _ => 0) [key] key.toUInt64 ⟨#[]⟩ 2 none 0
    let s := (empty 6 (.empty 1 1 (.ofSeed 0))).after [put 97, put 98, put 99]
    ∃ victims t,
      s.set UInt64.toNat [98] 98 ⟨#[49]⟩ 4 (some 9) 5 =
        .ok (⟨true, victims.map reportOfVictim⟩, t) ∧
      s.Overwrites UInt64.toNat [98] ⟨⟨#[]⟩, 2, 98, none, .main⟩ 98 ⟨#[49]⟩ 4 (some 9)
        victims t :=
  overwrite_keeps_key_and_evicts_least_sampled ((accounted_empty 6 1 1 (.ofSeed 0)).after _)
    (by rfl) (by decide) (by decide) (by decide) UInt64.toNat 98 ⟨#[49]⟩

end LfuCache.Shard
