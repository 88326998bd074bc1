import Mathlib
import LfuCache.Proofs.Placement.Words
import LfuCache.Proofs.Shard.Endings

/-!
# Shards that count in words

The operations of a shard once more, with sums and differences that notice when they leave the
words. A shard may for a moment hold nearly twice its capacity, and the victims of a contest free
no more than it holds, for they are distinct residents. With a capacity that is allowed, all of
this is a word, and so nothing is ever noticed.
-/

namespace LfuCache

open Word

/-! ## Rounds of admission -/

namespace Admission

variable {frequency : UInt64 → Nat} {σ : Type} {candidate : UInt64} {needed : Nat}
  {sample : List Key → σ → List Victim × σ}

/-- There is no answer either if what is freed leaves the words. -/
def contest? (frequency : UInt64 → Nat) (candidate : UInt64) (needed : Nat)
    (sample : List Key → σ → List Victim × σ) :
    Nat → List Key → Nat → σ → Option (Decision × σ)
  | rounds, chosen, freed, state =>
    if needed ≤ freed then some (.displace chosen, state)
    else match rounds with
      | 0 => none
      | rounds + 1 =>
        let (victims, state) := sample chosen state
        if !beats frequency candidate victims then some (.refuse, state)
        else match weakest frequency victims with
          | none => some (.refuse, state)
          | some v => do
            let freed ← add? freed v.cost
            contest? frequency candidate needed sample rounds (chosen ++ [v.key]) freed state

def judge? (frequency : UInt64 → Nat) (candidate : UInt64) (needed : Nat)
    (sample : List Key → σ → List Victim × σ) (rounds : Nat) (state : σ) :
    Option (Decision × σ) :=
  if needed = 0 then some (.fits, state)
  else contest? frequency candidate needed sample rounds [] 0 state

theorem contest?_eq {rounds freed : Nat} {chosen : List Key} {state : σ}
    (h : ∀ victims last, Wins frequency candidate sample chosen state victims last →
      freed + freedBy victims < UInt64.size) :
    contest? frequency candidate needed sample rounds chosen freed state =
      contest frequency candidate needed sample rounds chosen freed state := by
  induction rounds generalizing chosen freed state with
  | zero =>
    unfold contest? contest
    rfl
  | succ rounds ih =>
    unfold contest? contest
    split
    · rfl
    · dsimp only
      split
      · rfl
      · rename_i hbeats
        cases hweakest : weakest frequency (sample chosen state).1 with
        | none => rfl
        | some v =>
          have hlt : frequency v.hash < frequency candidate := by
            rw [← beats_iff_lt hweakest]
            simpa using hbeats
          have hone : freed + v.cost < UInt64.size := by
            simpa using h [v] _ (.round hweakest hlt (.nil _ _))
          have hrest : ∀ victims last, Wins frequency candidate sample (chosen ++ [v.key])
              (sample chosen state).2 victims last →
              freed + v.cost + freedBy victims < UInt64.size := by
            intro victims last hwins
            rw [Nat.add_assoc, ← freedBy_cons]
            exact h _ last (.round hweakest hlt hwins)
          simp only [add?_of_lt hone, Option.bind_eq_bind]
          exact ih hrest

end Admission

namespace Shard

open Admission

/-! ## The operations -/

def without? (s : Shard) (key : Key) (entry : Entry) : Option Shard := do
  let placement ← s.placement.remove? key entry.segment entry.cost
  let used ← sub? s.used entry.cost
  return { s.without key entry with placement, used }

def removeOne? (s : Shard) (key : Key) (cause : RemovalCause) :
    Option (Option Removal × Shard) :=
  match s.entries[key]? with
  | none => some (none, s)
  | some entry => do
    let s ← s.without? key entry
    return (some (removalOf cause entry), s.recordRemoval cause)

def removeAll? (cause : RemovalCause) : List Key → Shard → Option (List Removal × Shard)
  | [], s => some ([], s)
  | key :: keys, s => do
    let (removal, s) ← s.removeOne? key cause
    let (removals, s) ← removeAll? cause keys s
    return (removal.toList ++ removals, s)

def promote? (s : Shard) (key : Key) (cost : Nat) : Option Shard := do
  match ← s.placement.promote? key cost with
  | (true, placement) => return {
      s with
      placement
      entries := s.entries.modify key fun entry => { entry with segment := .main } }
  | (false, _) => return s

def touch? (s : Shard) (frequency : UInt64 → Nat) (key : Key) (entry : Entry) (hash : UInt64) :
    Option Shard :=
  if entry.segment = .window ∧ seenBefore frequency hash then s.promote? key entry.cost
  else some s

def get? (s : Shard) (frequency : UInt64 → Nat) (key : Key) (now : Instant) :
    Option (Lookup × Shard) :=
  match s.entries[key]? with
  | none => some (⟨none, none⟩, s.record .miss)
  | some entry =>
    if entry.isExpired now then do
      let (removal, s) ← (s.record .miss).removeOne? key .expired
      return (⟨none, removal⟩, s)
    else do
      let s ← (s.record .hit).touch? frequency key entry entry.hash
      return (⟨some entry.value, none⟩, s)

def shrink? (frequency : UInt64 → Nat) (keep : Key) : Nat → Shard → Option (List Removal × Shard)
  | 0, s => some ([], s)
  | turns + 1, s =>
    if s.used ≤ s.capacity then some ([], s)
    else
      let (victims, placement) := sampleVictims s.entries [keep] s.placement
      let s := { s with placement }
      match weakest frequency victims with
      | none => some ([], s)
      | some victim => do
        let (removal, s) ← s.removeOne? victim.key .evicted
        let (removals, s) ← shrink? frequency keep turns s
        return (removal.toList ++ removals, s)

def revise? (s : Shard) (key : Key) (entry : Entry) (value : ByteArray) (cost : Nat)
    (expiresAt : Option Instant) : Option Shard := do
  let placement ← s.placement.adjustCost? entry.segment entry.cost cost
  let others ← sub? s.used entry.cost
  let used ← add? others cost
  return { s.revise key entry value cost expiresAt with placement, used }

def rewrite? (s : Shard) (key : Key) (value : ByteArray) (cost : Nat)
    (expiresAt : Option Instant) : Option Shard :=
  match s.entries[key]? with
  | none => some s
  | some entry => do
    let s ← s.revise? key entry value cost expiresAt
    let outgrown := entry.segment = .window ∧ s.placement.windowCapacity < s.placement.windowCost
    if outgrown then s.promote? key cost else some s

def overwrite? (s : Shard) (frequency : UInt64 → Nat) (key : Key) (entry : Entry) (hash : UInt64)
    (value : ByteArray) (cost : Nat) (expiresAt : Option Instant) :
    Option (SetResult × Shard) := do
  let s ← s.touch? frequency key entry hash
  let s ← s.rewrite? key value cost expiresAt
  let (removed, s) ← shrink? frequency key s.size s
  return (⟨true, removed⟩, s.record .set)

def store? (s : Shard) (key : Key) (hash : UInt64) (value : ByteArray) (cost : Nat)
    (expiresAt : Option Instant) : Option Shard := do
  let room ← s.placement.windowHasRoom? cost
  let placement ← s.placement.insert? key (if room then .window else .main) cost
  let used ← add? s.used cost
  return { s.store key hash value cost expiresAt with placement, used }

def tryAdmit? (s : Shard) (frequency : UInt64 → Nat) (key : Key) (hash : UInt64)
    (value : ByteArray) (cost : Nat) (expiresAt : Option Instant) :
    Option (SetResult × Shard) := do
  let sum ← add? s.used cost
  -- There may be room already, and then nothing is needed. This is no failed difference.
  let (decision, placement) ← judge? frequency hash (sum - s.capacity)
    (sampleVictims s.entries) (s.size + 1) s.placement
  let s := { s with placement }
  match decision with
  | .refuse => return (⟨false, []⟩, s.record .rejection)
  | .fits =>
    let s ← s.store? key hash value cost expiresAt
    return (⟨true, []⟩, s.record .set)
  | .displace keys =>
    let (removed, s) ← removeAll? .evicted keys s
    let s ← s.store? key hash value cost expiresAt
    return (⟨true, removed⟩, s.record .set)

def set? (s : Shard) (frequency : UInt64 → Nat) (key : Key) (hash : UInt64) (value : ByteArray)
    (cost : Nat) (expiresAt : Option Instant) (now : Instant) :
    Option (Except CacheError (SetResult × Shard)) :=
  if s.capacity < cost then some (.error (.valueTooLarge cost s.capacity))
  else if expiredAt expiresAt now then do
    let (removal, s) ← s.removeOne? key .expired
    return .ok (⟨false, removal.toList⟩, s.record .rejection)
  else match s.entries[key]? with
    | none => do
      let answer ← s.tryAdmit? frequency key hash value cost expiresAt
      return .ok answer
    | some entry =>
      if entry.isExpired now then do
        let (removal, s) ← s.removeOne? key .expired
        let (result, s) ← s.tryAdmit? frequency key hash value cost expiresAt
        return .ok ({ result with removed := removal.toList ++ result.removed }, s)
      else do
        let answer ← s.overwrite? frequency key entry hash value cost expiresAt
        return .ok answer

def delete? (s : Shard) (key : Key) (now : Instant) : Option (Option Removal × Shard) :=
  match s.entries[key]? with
  | none => some (none, s)
  | some entry => s.removeOne? key (if entry.isExpired now then .expired else .deleted)

def removeExpiredIn? (s : Shard) (order : SweepOrder) (now : Instant) :
    Option (List Removal × Shard) :=
  removeAll? .expired (order.arrange (s.expiredKeys now)) s

/-- The call, if all costs that it counts are words. -/
def call? (s : Shard) : ShardCall → Option (ShardAnswer × Shard)
  | .get frequency key now => do
    let (lookup, s) ← s.get? frequency key now
    return (.found lookup, s)
  | .set frequency key hash value cost expiresAt now => do
    match ← s.set? frequency key hash value cost expiresAt now with
    | .ok (result, s) => return (.wrote result, s)
    | .error e => return (.failed e, s)
  | .delete key now => do
    let (removal, s) ← s.delete? key now
    return (.deleted removal, s)
  | .clear =>
    let (count, s) := s.clear
    some (.cleared count, s)
  | .removeExpired order now => do
    let (removals, s) ← s.removeExpiredIn? order now
    return (.swept removals, s)

variable {s : Shard} {key : Key} {entry : Entry} {cost : Nat}

theorem Accounted.costIn_le_used (hs : s.Accounted) (segment : Segment) :
    s.placement.costIn segment ≤ s.used := by
  rw [hs.used_eq_segments]
  cases segment with
  | window => exact Nat.le_add_right _ _
  | main => exact Nat.le_add_left _ _

/-! ## Removals -/

theorem without?_eq (hs : s.Accounted) (hget : s.entries[key]? = some entry) :
    s.without? key entry = some (s.without key entry) := by
  have hused : entry.cost ≤ s.used := hs.used_eq ▸ cost_le_totalCost hget
  rw [without?, Placement.remove?_eq (hs.places.cost_le_costIn hget), sub?_of_le hused]
  rfl

theorem removeOne?_eq (hs : s.Accounted) (key : Key) (cause : RemovalCause) :
    s.removeOne? key cause = some (s.removeEntry key cause) := by
  unfold removeOne? removeEntry
  cases hget : s.entries[key]? with
  | none => rfl
  | some entry =>
    simp only [without?_eq hs hget]
    rfl

theorem removeAll?_eq (hs : s.Accounted) (cause : RemovalCause) (keys : List Key) :
    removeAll? cause keys s = some (removeAll cause keys s) := by
  induction keys generalizing s with
  | nil => rfl
  | cons key keys ih =>
    have hnext := hs.changes (changes_removeEntry s key cause)
    rw [removeAll?, removeOne?_eq hs, removeAll_cons]
    simp only [Option.bind_eq_bind, Option.bind_some, ih hnext]
    rfl

theorem delete?_eq (hs : s.Accounted) (key : Key) (now : Instant) :
    s.delete? key now = some (s.delete key now) := by
  unfold delete? delete
  cases s.entries[key]? with
  | none => rfl
  | some entry => exact removeOne?_eq hs key _

theorem shrink?_eq (hs : s.Accounted) (frequency : UInt64 → Nat) (keep : Key) (turns : Nat) :
    shrink? frequency keep turns s = some (shrink frequency keep turns s) := by
  induction turns generalizing s with
  | zero => rfl
  | succ turns ih =>
    unfold shrink? shrink
    split
    · rfl
    · have hsampled : (s.sampled keep).Accounted := hs.changes (changes_sampled s keep)
      dsimp only
      cases weakest frequency (sampleVictims s.entries [keep] s.placement).1 with
      | none => rfl
      | some v =>
        have hnext := hsampled.changes (changes_removeEntry _ v.key .evicted)
        have hfirst := removeOne?_eq hsampled v.key .evicted
        simp only [sampled] at hfirst hnext
        simp only [hfirst, ih hnext, Option.bind_eq_bind, Option.bind_some]
        rfl

/-! ## Promotions -/

theorem promote?_eq (hs : s.Accounted) (hget : s.entries[key]? = some entry)
    (hwindow : entry.segment = .window) (hused : s.used < UInt64.size) :
    s.promote? key entry.cost = some (s.promote key entry.cost) := by
  have hcost := hs.places.cost_le_costIn hget
  have hsum := hs.used_eq_segments
  rw [hwindow, Placement.costIn] at hcost
  have hpromote : s.placement.promote? key entry.cost = some (s.placement.promote key entry.cost) :=
    Placement.promote?_eq hcost (by omega)
  simp only [promote?, promote, hpromote, Option.bind_eq_bind, Option.bind_some]
  obtain ⟨moved, placement⟩ := s.placement.promote key entry.cost
  cases moved <;> rfl

theorem touch?_eq (hs : s.Accounted) (hget : s.entries[key]? = some entry)
    (hused : s.used < UInt64.size) (frequency : UInt64 → Nat) (hash : UInt64) :
    s.touch? frequency key entry hash = some (s.touch frequency key entry hash) := by
  unfold touch? touch
  split
  · rename_i hmoves
    exact promote?_eq hs hget hmoves.1 hused
  · rfl

theorem get?_eq (hs : s.Accounted) (hused : s.used < UInt64.size) (frequency : UInt64 → Nat)
    (key : Key) (now : Instant) : s.get? frequency key now = some (s.get frequency key now) := by
  unfold get? get
  cases hget : s.entries[key]? with
  | none => rfl
  | some entry =>
    dsimp only
    split
    · rw [removeOne?_eq (hs.change (.record s .miss))]
      rfl
    · have htouch := touch?_eq (hs.change (.record s .hit)) hget hused frequency entry.hash
      rw [htouch]
      rfl

/-! ## Writes over a live entry -/

theorem revise?_eq (hs : s.Accounted) (hget : s.entries[key]? = some entry)
    (hused : s.used - entry.cost + cost < UInt64.size) (value : ByteArray)
    (expiresAt : Option Instant) :
    s.revise? key entry value cost expiresAt = some (s.revise key entry value cost expiresAt) := by
  have hcost : entry.cost ≤ s.used := hs.used_eq ▸ cost_le_totalCost hget
  have hsegment : s.placement.costIn entry.segment - entry.cost + cost < UInt64.size := by
    have hle := hs.costIn_le_used entry.segment
    omega
  simp only [revise?, Placement.adjustCost?_eq (hs.places.cost_le_costIn hget) hsegment,
    sub?_of_le hcost, add?_of_lt hused, Option.bind_eq_bind, Option.bind_some]
  rfl

theorem rewrite?_eq (hs : s.Accounted) (hget : s.entries[key]? = some entry)
    (hused : s.used - entry.cost + cost < UInt64.size) (value : ByteArray)
    (expiresAt : Option Instant) :
    s.rewrite? key value cost expiresAt = some (s.rewrite key value cost expiresAt) := by
  have hrevised := hs.revise hget value cost expiresAt
  have hnew : (s.revise key entry value cost expiresAt).entries[key]? =
      some { entry with value, cost, expiresAt } := by simp [revise]
  simp only [rewrite?, rewrite, hget, revise?_eq hs hget hused, Option.bind_eq_bind,
    Option.bind_some]
  split
  · rename_i hgrown
    exact promote?_eq hrevised hnew hgrown.1 hused
  · rfl

theorem overwrite?_eq (hs : s.Accounted) (hget : s.entries[key]? = some entry)
    (hused : s.used + cost < UInt64.size) (frequency : UInt64 → Nat) (hash : UInt64)
    (value : ByteArray) (expiresAt : Option Instant) :
    s.overwrite? frequency key entry hash value cost expiresAt =
      some (s.overwrite frequency key entry hash value cost expiresAt) := by
  have htouched : (s.touch frequency key entry hash).Accounted :=
    hs.changes (changes_touch hget hash)
  have hrewritten := hs.changes (changes_rewritten hget frequency hash value cost expiresAt)
  have hfits : (s.touch frequency key entry hash).used - entry.cost + cost < UInt64.size := by
    rw [used_touch]
    omega
  simp only [overwrite?, overwrite, touch?_eq hs hget (by omega) frequency hash,
    rewrite?_eq htouched (get_touch_self hs hget frequency hash) hfits value expiresAt,
    shrink?_eq hrewritten, Option.bind_eq_bind, Option.bind_some]
  rfl

/-! ## New keys -/

theorem store?_eq (hs : s.Accounted) (hused : s.used + cost < UInt64.size) (key : Key)
    (hash : UInt64) (value : ByteArray) (expiresAt : Option Instant) :
    s.store? key hash value cost expiresAt = some (s.store key hash value cost expiresAt) := by
  have hsegment : ∀ segment, s.placement.costIn segment + cost < UInt64.size := by
    intro segment
    have hle := hs.costIn_le_used segment
    omega
  simp only [store?, Placement.windowHasRoom?_eq (hsegment .window),
    Placement.insert?_eq (hsegment _), add?_of_lt hused, Option.bind_eq_bind, Option.bind_some]
  rfl

theorem freedBy_le_used (hs : s.Accounted) {victims : List Victim}
    (hnodup : (victims.map (·.key)).Nodup) (hresidents : ∀ v ∈ victims, IsResident s.entries v) :
    freedBy victims ≤ s.used := by
  have htotal := (drops_victims hnodup hresidents).2.totalCost_eq
  rw [List.map_map, ← hs.used_eq] at htotal
  exact Nat.le_of_add_left_le htotal.le

theorem judge?_eq (hs : s.Accounted) (hused : s.used < UInt64.size) (frequency : UInt64 → Nat)
    (hash : UInt64) (needed rounds : Nat) :
    judge? frequency hash needed (sampleVictims s.entries) rounds s.placement =
      judge frequency hash needed (sampleVictims s.entries) rounds s.placement := by
  unfold judge? judge
  split
  · rfl
  · apply contest?_eq
    intro victims last hwins
    obtain ⟨-, hnodup, hresident⟩ := wins_residents hwins
    have hle := freedBy_le_used hs hnodup fun v hv => (hresident v hv).1
    omega

theorem tryAdmit?_eq (hs : s.Accounted) (hused : s.used + cost < UInt64.size)
    (frequency : UInt64 → Nat) (key : Key) (hash : UInt64) (value : ByteArray)
    (expiresAt : Option Instant) :
    s.tryAdmit? frequency key hash value cost expiresAt =
      some (s.tryAdmit frequency key hash value cost expiresAt) := by
  obtain ⟨decision, last, hanswer⟩ :=
    s.judges_within_size frequency hash (s.used + cost - s.capacity)
  have hjudge := hanswer.judge_eq (Nat.le_refl _)
  have hsame := (judge?_eq hs (by omega) frequency hash _ _).trans hjudge
  have hdrawn : Accounted { s with placement := last } :=
    hs.change (.draw (afterDraws_judge hjudge))
  simp only [tryAdmit?, tryAdmit, add?_of_lt hused, hsame, hjudge, Option.bind_eq_bind,
    Option.bind_some, Option.getD_some]
  cases decision with
  | refuse => rfl
  | fits =>
    simp only [store?_eq hdrawn hused]
    rfl
  | displace keys =>
    have hleft := hdrawn.changes (changes_removeAll .evicted keys _)
    have hfits : (removeAll .evicted keys { s with placement := last }).2.used + cost <
        UInt64.size := by
      have hless := (easings_removeAll .evicted keys { s with placement := last }).used_le
      dsimp only at hless
      omega
    simp only [removeAll?_eq hdrawn, Option.bind_some, store?_eq hleft hfits]
    rfl

/-! ## One call -/

theorem set?_eq (hs : s.Accounted) (hused : s.used + s.capacity < UInt64.size)
    (frequency : UInt64 → Nat) (key : Key) (hash : UInt64) (value : ByteArray) (cost : Nat)
    (expiresAt : Option Instant) (now : Instant) :
    s.set? frequency key hash value cost expiresAt now =
      some (s.set frequency key hash value cost expiresAt now) := by
  unfold set? set
  split
  · rfl
  · have hfits : s.used + cost < UInt64.size := by omega
    split
    · rw [removeOne?_eq hs]
      rfl
    · cases hget : s.entries[key]? with
      | none =>
        simp only [tryAdmit?_eq hs hfits]
        rfl
      | some entry =>
        dsimp only
        split
        · have hremoved := hs.changes (changes_removeEntry s key .expired)
          have hless := (easings_removeEntry s key .expired).used_le
          simp only [removeOne?_eq hs, Option.bind_eq_bind, Option.bind_some]
          rw [tryAdmit?_eq hremoved (by omega)]
          rfl
        · rw [overwrite?_eq hs hget hfits]
          rfl

theorem call?_eq (hs : s.Accounted) (hused : s.used + s.capacity < UInt64.size)
    (call : ShardCall) : s.call? call = some (s.call call) := by
  cases call with
  | get frequency key now =>
    simp only [call?, get?_eq hs (by omega)]
    rfl
  | set frequency key hash value cost expiresAt now =>
    simp only [call?, Shard.call, set?_eq hs hused, Option.bind_eq_bind, Option.bind_some]
    cases s.set frequency key hash value cost expiresAt now <;> rfl
  | delete key now =>
    simp only [call?, delete?_eq hs]
    rfl
  | clear => rfl
  | removeExpired order now =>
    simp only [call?, removeExpiredIn?, removeAll?_eq hs]
    rfl

/-- A shard with more capacity than is allowed meets a sum that is no word. -/
example :
    let put (key : UInt8) (cost : Nat) : ShardCall := .set (fun _ => 0) [key] 0 ⟨#[]⟩ cost none 0
    let s := (empty (UInt64.size - 1) (.empty 1 1 (.ofSeed 0))).after [put 97 (UInt64.size - 1)]
    (s.call? (put 98 1)).isNone := by
  decide +kernel

end Shard

end LfuCache
