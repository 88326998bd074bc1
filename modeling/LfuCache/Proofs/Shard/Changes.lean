import Mathlib
import LfuCache.Proofs.Shard.Writes
import LfuCache.Proofs.Shard.Calls

/-!
# Elementary changes

Each call of a shard is a chain of a few kinds of change, and each of them is given a key
and an entry that fit the state it meets. What every change keeps, every call keeps. Most of
them only ease the shard: nothing comes in, and no entry gets another cost.
-/

namespace LfuCache.Shard

open Admission

inductive Change : Shard → Shard → Prop where
  | record (s : Shard) (outcome : Outcome) : Change s (s.record outcome)
  | draw {s : Shard} {placement : Placement} :
    Placement.AfterDraws s.placement placement → Change s { s with placement }
  | remove {s : Shard} {key : Key} {entry : Entry} :
    s.entries[key]? = some entry → Change s (s.without key entry)
  | promote {s : Shard} {key : Key} {entry : Entry} :
    s.entries[key]? = some entry → entry.segment = .window →
    Change s (s.promote key entry.cost)
  | revise {s : Shard} {key : Key} {entry : Entry} (value : ByteArray) (cost : Nat)
    (expiresAt : Option Instant) : s.entries[key]? = some entry →
    Change s (s.revise key entry value cost expiresAt)
  | store {s : Shard} {key : Key} (hash : UInt64) (value : ByteArray) (cost : Nat)
    (expiresAt : Option Instant) : s.entries[key]? = none →
    Change s (s.store key hash value cost expiresAt)
  | clear (s : Shard) : Change s s.clear.2

abbrev Changes : Shard → Shard → Prop := Relation.ReflTransGen Change

/-- A change by which nothing comes in, and no entry gets another cost. -/
inductive Easing : Shard → Shard → Prop where
  | record (s : Shard) (outcome : Outcome) : Easing s (s.record outcome)
  | draw {s : Shard} {placement : Placement} :
    Placement.AfterDraws s.placement placement → Easing s { s with placement }
  | remove {s : Shard} {key : Key} {entry : Entry} :
    s.entries[key]? = some entry → Easing s (s.without key entry)
  | promote {s : Shard} {key : Key} {entry : Entry} :
    s.entries[key]? = some entry → entry.segment = .window →
    Easing s (s.promote key entry.cost)
  | clear (s : Shard) : Easing s s.clear.2

abbrev Easings : Shard → Shard → Prop := Relation.ReflTransGen Easing

theorem Changes.keep {P : Shard → Prop} (hstep : ∀ s t, Change s t → P s → P t) {s t : Shard}
    (h : Changes s t) (hs : P s) : P t := by
  induction h with
  | refl => exact hs
  | tail _ hchange ih => exact hstep _ _ hchange ih

section Operations

variable {s t : Shard} {frequency : UInt64 → Nat} {key : Key} {entry : Entry}

theorem changes_record (h : Changes s t) (outcome : Outcome) : Changes s (t.record outcome) :=
  h.tail (.record t outcome)

theorem Easing.change (h : Easing s t) : Change s t := by
  cases h with
  | record => exact .record s _
  | draw hdraws => exact .draw hdraws
  | remove hget => exact .remove hget
  | promote hget hwindow => exact .promote hget hwindow
  | clear => exact .clear s

theorem Easings.changes (h : Easings s t) : Changes s t :=
  Relation.ReflTransGen.mono (fun _ _ => Easing.change) s t h

/-! ## Operations that ease -/

theorem easings_removeEntry (s : Shard) (key : Key) (cause : RemovalCause) :
    Easings s (s.removeEntry key cause).2 := by
  cases hget : s.entries[key]? with
  | none =>
    rw [removeEntry_of_none cause hget]
  | some entry =>
    rw [removeEntry_of_some cause hget]
    have hout : Easings s (s.without key entry) := .single (.remove hget)
    cases cause with
    | deleted => exact hout
    | evicted => exact hout.tail (.record _ _)
    | expired => exact hout.tail (.record _ _)

theorem easings_removeAll (cause : RemovalCause) (keys : List Key) (s : Shard) :
    Easings s (removeAll cause keys s).2 := by
  induction keys generalizing s with
  | nil => exact .refl
  | cons key keys ih => exact (easings_removeEntry s key cause).trans (ih _)

theorem easings_touch (hget : s.entries[key]? = some entry) (hash : UInt64) :
    Easings s (s.touch frequency key entry hash) := by
  unfold touch
  split
  · rename_i hmoves
    exact .single (.promote hget hmoves.1)
  · exact .refl

theorem easings_shrink (keep : Key) (turns : Nat) (s : Shard) :
    Easings s (shrink frequency keep turns s).2 := by
  induction turns generalizing s with
  | zero => exact .refl
  | succ turns ih =>
    unfold shrink
    split
    · exact .refl
    · have hdraw : Easings s { s with placement :=
          (sampleVictims s.entries [keep] s.placement).2 } :=
        .single (.draw (afterDraws_sampleVictims s.entries [keep] s.placement))
      dsimp only
      split
      · exact hdraw
      · exact (hdraw.trans (easings_removeEntry _ _ _)).trans (ih _)

theorem easings_get (s : Shard) (frequency : UInt64 → Nat) (key : Key) (now : Instant) :
    Easings s (s.get frequency key now).2 := by
  unfold get
  split
  · exact .single (.record _ _)
  · rename_i entry hget
    split
    · exact (Relation.ReflTransGen.single (.record _ _)).trans (easings_removeEntry _ _ _)
    · apply (Relation.ReflTransGen.single (.record s .hit)).trans
      exact easings_touch (by rwa [entries_record]) entry.hash

theorem easings_delete (s : Shard) (key : Key) (now : Instant) :
    Easings s (s.delete key now).2 := by
  unfold delete
  split
  · exact .refl
  · exact easings_removeEntry s key _

theorem changes_removeEntry (s : Shard) (key : Key) (cause : RemovalCause) :
    Changes s (s.removeEntry key cause).2 := (easings_removeEntry s key cause).changes

theorem changes_removeAll (cause : RemovalCause) (keys : List Key) (s : Shard) :
    Changes s (removeAll cause keys s).2 := (easings_removeAll cause keys s).changes

theorem changes_touch (hget : s.entries[key]? = some entry) (hash : UInt64) :
    Changes s (s.touch frequency key entry hash) := (easings_touch hget hash).changes

theorem changes_shrink (keep : Key) (turns : Nat) (s : Shard) :
    Changes s (shrink frequency keep turns s).2 := (easings_shrink keep turns s).changes

/-! ## All operations -/

theorem changes_rewrite (s : Shard) (key : Key) (value : ByteArray) (cost : Nat)
    (expiresAt : Option Instant) : Changes s (s.rewrite key value cost expiresAt) := by
  unfold rewrite
  split
  · exact .refl
  · rename_i entry hget
    have hrevise : Changes s (s.revise key entry value cost expiresAt) :=
      .single (.revise value cost expiresAt hget)
    dsimp only
    split
    · rename_i hgrown
      -- The entry is promoted with the cost that it has by now.
      have hnew : (s.revise key entry value cost expiresAt).entries[key]? =
          some { entry with value, cost, expiresAt } := by simp [revise]
      exact hrevise.tail (.promote hnew hgrown.1)
    · exact hrevise

theorem changes_rewritten (hget : s.entries[key]? = some entry) (frequency : UInt64 → Nat)
    (hash : UInt64) (value : ByteArray) (cost : Nat) (expiresAt : Option Instant) :
    Changes s ((s.touch frequency key entry hash).rewrite key value cost expiresAt) :=
  (changes_touch hget hash).trans (changes_rewrite _ key value cost expiresAt)

theorem changes_of_admits {hash : UInt64} {value : ByteArray} {cost : Nat}
    {expiresAt : Option Instant} {result : SetResult} (hget : s.entries[key]? = none)
    (h : s.Admits frequency key hash value cost expiresAt result t) : Changes s t := by
  cases h with
  | fits => exact changes_record (.single (.store hash value cost expiresAt hget)) _
  | refuse _ hdraws => exact changes_record (.single (.draw hdraws)) _
  | displace _ hdraws =>
    apply changes_record
    apply Relation.ReflTransGen.tail
      ((Relation.ReflTransGen.single (.draw hdraws)).trans (changes_removeAll .evicted _ _))
    apply Change.store
    simp [get_removeAll, hget]

theorem changes_overwrite (hget : s.entries[key]? = some entry) (hash : UInt64)
    (value : ByteArray) (cost : Nat) (expiresAt : Option Instant) :
    Changes s (s.overwrite frequency key entry hash value cost expiresAt).2 := by
  apply changes_record
  exact (changes_rewritten hget frequency hash value cost expiresAt).trans (changes_shrink key _ _)

theorem changes_set {hash : UInt64} {value : ByteArray} {cost : Nat} {expiresAt : Option Instant}
    {now : Instant} {result : SetResult}
    (h : s.set frequency key hash value cost expiresAt now = .ok (result, t)) : Changes s t := by
  have hsets := s.set_sets frequency key hash value cost expiresAt now
  rw [h] at hsets
  cases hsets with
  | tooLate => exact changes_record (changes_removeEntry s key .expired) _
  | new _ _ _ hadmits =>
    apply (changes_removeEntry s key .expired).trans
    exact changes_of_admits (by simp [get_removeEntry]) hadmits
  | live _ _ hget => exact changes_overwrite hget hash value cost expiresAt

theorem changes_call (s : Shard) (call : ShardCall) : Changes s (s.call call).2 := by
  cases call with
  | get frequency key now => exact (easings_get s frequency key now).changes
  | set frequency key hash value cost expiresAt now =>
    simp only [Shard.call]
    cases h : s.set frequency key hash value cost expiresAt now with
    | error e => exact .refl
    | ok answer => exact changes_set h
  | delete key now => exact (easings_delete s key now).changes
  | clear => exact .single (.clear s)
  | removeExpired order now => exact changes_removeAll .expired _ s

end Operations

/-! ## Settings -/

theorem SameSettings.of_change {s t : Shard} (h : Change s t) : SameSettings s t := by
  cases h with
  | record => exact .record s _
  | draw hdraws => exact .withPlacement s hdraws
  | remove hget => exact .without s _ _
  | promote => exact .promote s _ _
  | revise =>
    refine ⟨rfl, ?_, ?_⟩ <;> simp only [revise, Placement.adjustCost] <;> split <;> rfl
  | store =>
    refine ⟨rfl, ?_, ?_⟩ <;> simp only [store, Placement.insert] <;> split <;> rfl
  | clear => exact ⟨rfl, rfl, rfl⟩

theorem SameSettings.of_changes {s t : Shard} (h : Changes s t) : SameSettings s t :=
  h.keep (fun _ _ hchange hs => hs.trans (.of_change hchange)) (.refl s)

end LfuCache.Shard
