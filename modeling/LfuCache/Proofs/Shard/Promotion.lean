import Mathlib
import LfuCache.Proofs.Shard.Bookings
import LfuCache.Proofs.Shard.NewKeys
import LfuCache.Proofs.Shard.WindowBudget

/-!
# Promotion goes one way

An entry moves from the window to main, and never back while it stays. It moves when it is
touched and was seen before, or when a write makes it too large for the window, and in no other
call. A read moves entries and changes nothing else of those that are live.
-/

namespace LfuCache

/-- The key that a call is about. -/
def ShardCall.key? : ShardCall → Option Key
  | .get _ key _ => some key
  | .set _ key _ _ _ _ _ => some key
  | .delete key _ => some key
  | .clear | .removeExpired _ _ => none

namespace Shard

variable {s t u : Shard} {frequency : UInt64 → Nat} {key other : Key} {entry : Entry}
  {hash : UInt64} {value : ByteArray} {cost : Nat} {expiresAt : Option Instant}
  {result : SetResult}

/-! ## What a call does to an entry -/

/-- The call writes the key anew. What was under it is gone or over, and goes first. -/
def Renews (s : Shard) (key : Key) : ShardCall → Prop
  | .set _ k _ _ cost _ now => k = key ∧ cost ≤ s.capacity ∧ s.Vacant key now
  | _ => False

/-- What is under the key stays there during the call. -/
def Stays (s : Shard) (key : Key) (call : ShardCall) : Prop :=
  (s.call call).2.entries[key]? ≠ none ∧ ¬s.Renews key call

def StaysThrough (key : Key) : Shard → List ShardCall → Prop
  | _, [] => True
  | s, call :: calls => s.Stays key call ∧ StaysThrough key (s.call call).2 calls

/-- The call finds the entry live, and either it was seen before or it outgrows the window. -/
def Promotes (s : Shard) (key : Key) (entry : Entry) : ShardCall → Prop
  | .get frequency k now => k = key ∧ entry.isExpired now = false ∧ 1 ≤ frequency entry.hash
  | .set frequency k hash _ cost expiresAt now =>
    k = key ∧ cost ≤ s.capacity ∧ expiredAt expiresAt now = false ∧
      entry.isExpired now = false ∧ (1 ≤ frequency hash ∨ s.Outgrows entry cost)
  | _ => False

/-! ## Steps that move an entry -/

theorem seenBefore_iff : seenBefore frequency hash = true ↔ 1 ≤ frequency hash := by
  rw [seenBefore, decide_eq_true_iff, promotionFrequency]
  omega

theorem get_promote_self (hs : s.Accounted) (hget : s.entries[key]? = some entry)
    (hwindow : entry.segment = .window) (cost : Nat) :
    (s.promote key cost).entries[key]? = some { entry with segment := .main } := by
  have hmem : key ∈ s.placement.keysIn .window := hwindow ▸ hs.places.mem_of_get hget
  simp only [promote, Placement.promote_of_mem hs.places.indexed cost hmem, Map.get_modify,
    if_true, hget, Option.map_some]

theorem get_promote_of_ne (hne : other ≠ key) (s : Shard) (cost : Nat) :
    (s.promote key cost).entries[other]? = s.entries[other]? := by
  unfold promote
  split
  · rw [Map.get_modify, if_neg (Ne.symm hne)]
  · rfl

theorem get_touch_self (hs : s.Accounted) (hget : s.entries[key]? = some entry)
    (frequency : UInt64 → Nat) (hash : UInt64) :
    (s.touch frequency key entry hash).entries[key]? = some { entry with
      segment := if seenBefore frequency hash then .main else entry.segment } := by
  unfold touch
  cases hsegment : entry.segment with
  | window =>
    cases hseen : seenBefore frequency hash with
    | true => simpa using get_promote_self hs hget hsegment entry.cost
    | false => simpa [← hsegment] using hget
  | main =>
    rw [if_neg (by simp), ite_self, ← hsegment]
    exact hget

theorem get_touch_of_ne (hne : other ≠ key) (s : Shard) (frequency : UInt64 → Nat)
    (entry : Entry) (hash : UInt64) :
    (s.touch frequency key entry hash).entries[other]? = s.entries[other]? := by
  unfold touch
  split
  · exact get_promote_of_ne hne s entry.cost
  · rfl

theorem get_rewrite_self (hs : s.Accounted) (hget : s.entries[key]? = some entry)
    (value : ByteArray) (cost : Nat) (expiresAt : Option Instant) :
    (s.rewrite key value cost expiresAt).entries[key]? =
      some ⟨value, cost, entry.hash, expiresAt,
        if s.Outgrows entry cost then .main else entry.segment⟩ := by
  have hrevised := s.get_revise key entry value cost expiresAt
  rw [rewrite_of_get hget]
  by_cases hout : s.Outgrows entry cost
  · rw [if_pos hout, if_pos hout]
    exact get_promote_self (hs.revise hget value cost expiresAt) hrevised hout.1 cost
  · rw [if_neg hout, if_neg hout]
    exact hrevised

theorem get_rewrite_of_ne (hne : other ≠ key) (s : Shard) (value : ByteArray) (cost : Nat)
    (expiresAt : Option Instant) :
    (s.rewrite key value cost expiresAt).entries[other]? = s.entries[other]? := by
  cases hget : s.entries[key]? with
  | none => simp only [rewrite, hget]
  | some entry =>
    have hrevised : (s.revise key entry value cost expiresAt).entries[other]? =
        s.entries[other]? := by
      rw [revise, Map.get_insert, if_neg (Ne.symm hne)]
    rw [rewrite_of_get hget]
    split
    · rw [get_promote_of_ne hne, hrevised]
    · exact hrevised

theorem get_shrink_keep (frequency : UInt64 → Nat) (keep : Key) (turns : Nat) (s : Shard) :
    (shrink frequency keep turns s).2.entries[keep]? = s.entries[keep]? := by
  obtain ⟨keys, hkeep, hdrops⟩ := drops_shrink frequency keep turns s
  rw [hdrops.get_eq, if_neg hkeep]

theorem segment?_get (hs : s.Accounted) (hget : s.entries[key]? = some entry)
    (frequency : UInt64 → Nat) {now : Instant} (hlive : entry.isExpired now = false) :
    (s.get frequency key now).2.segment? key =
      some (if seenBefore frequency entry.hash then .main else entry.segment) := by
  have hrecorded : (s.record .hit).Accounted := hs.change (.record s .hit)
  unfold get
  simp only [hget, hlive, Bool.false_eq_true, if_false]
  rw [segment?, get_touch_self hrecorded hget]
  rfl

/-- A write over an entry touches it first. If that moves it, it cannot outgrow the window
any more, and if not, the shard is the same when the costs are compared. -/
theorem get_rewritten_self (hs : s.Accounted) (hget : s.entries[key]? = some entry)
    (frequency : UInt64 → Nat) (hash : UInt64) (value : ByteArray) (cost : Nat)
    (expiresAt : Option Instant) :
    ((s.touch frequency key entry hash).rewrite key value cost expiresAt).entries[key]? =
      some ⟨value, cost, entry.hash, expiresAt,
        if seenBefore frequency hash ∨ s.Outgrows entry cost then .main else entry.segment⟩ := by
  have htouched : (s.touch frequency key _ hash).Accounted :=
    hs.changes (changes_touch hget hash)
  rw [get_rewrite_self htouched (get_touch_self hs hget frequency hash)]
  cases hseen : seenBefore frequency hash with
  | true => simp
  | false =>
    -- Nothing was moved, so the touched shard is the shard itself.
    simp [touch, hseen]

theorem get_rewritten_of_ne (hne : other ≠ key) (s : Shard) (frequency : UInt64 → Nat)
    (entry : Entry) (hash : UInt64) (value : ByteArray) (cost : Nat)
    (expiresAt : Option Instant) :
    ((s.touch frequency key entry hash).rewrite key value cost expiresAt).entries[other]? =
      s.entries[other]? := by
  rw [get_rewrite_of_ne hne, get_touch_of_ne hne]

theorem segment?_overwrite (hs : s.Accounted) (hget : s.entries[key]? = some entry)
    (frequency : UInt64 → Nat) (hash : UInt64) (value : ByteArray) (cost : Nat)
    (expiresAt : Option Instant) :
    (s.overwrite frequency key entry hash value cost expiresAt).2.segment? key =
      some (if seenBefore frequency hash ∨ s.Outgrows entry cost then .main
        else entry.segment) := by
  rw [segment?, overwrite, entries_record, get_shrink_keep, get_rewritten_self hs hget]
  rfl

/-! ## Calls about other keys -/

def KeptOrGone (key : Key) (s t : Shard) : Prop :=
  t.entries[key]? = none ∨ t.entries[key]? = s.entries[key]?

namespace KeptOrGone

theorem trans (hst : KeptOrGone key s t) (htu : KeptOrGone key t u) : KeptOrGone key s u := by
  rcases htu with hgone | hkept
  · exact .inl hgone
  · rw [KeptOrGone, hkept]
    exact hst

theorem of_ite {p : Prop} [Decidable p]
    (h : t.entries[key]? = if p then none else s.entries[key]?) : KeptOrGone key s t := by
  rw [KeptOrGone, h]
  split
  · exact .inl rfl
  · exact .inr rfl

theorem removeEntry (s : Shard) (key other : Key) (cause : RemovalCause) :
    KeptOrGone other s (s.removeEntry key cause).2 := .of_ite (s.get_removeEntry key other cause)

theorem removeAll (cause : RemovalCause) (keys : List Key) (s : Shard) (other : Key) :
    KeptOrGone other s (removeAll cause keys s).2 := .of_ite (get_removeAll cause keys s other)

theorem shrink (frequency : UInt64 → Nat) (keep : Key) (turns : Nat) (s : Shard) (other : Key) :
    KeptOrGone other s (shrink frequency keep turns s).2 := by
  obtain ⟨keys, -, hdrops⟩ := drops_shrink frequency keep turns s
  exact .of_ite (hdrops.get_eq other)

theorem admits (hne : other ≠ key)
    (h : s.Admits frequency key hash value cost expiresAt result t) : KeptOrGone other s t := by
  cases h with
  | fits => exact .inr (get_store_of_ne hne)
  | refuse => exact .inr rfl
  | @displace placement victims =>
    have hleft := KeptOrGone.removeAll .evicted (victims.map (·.key)) { s with placement } other
    exact hleft.trans (.inr (get_store_of_ne hne))

theorem get (hne : other ≠ key) (s : Shard) (frequency : UInt64 → Nat) (now : Instant) :
    KeptOrGone other s (s.get frequency key now).2 := by
  unfold Shard.get
  split
  · exact .inr rfl
  · rename_i entry hget
    split
    · exact KeptOrGone.removeEntry (s.record .miss) key other .expired
    · exact .inr (get_touch_of_ne hne (s.record .hit) frequency entry entry.hash)

theorem delete (s : Shard) (key other : Key) (now : Instant) :
    KeptOrGone other s (s.delete key now).2 := by
  unfold Shard.delete
  split
  · exact .inr rfl
  · exact .removeEntry s key other _

theorem overwrite (hne : other ≠ key) (s : Shard) (frequency : UInt64 → Nat) (entry : Entry)
    (hash : UInt64) (value : ByteArray) (cost : Nat) (expiresAt : Option Instant) :
    KeptOrGone other s (s.overwrite frequency key entry hash value cost expiresAt).2 := by
  have hrewritten := get_rewritten_of_ne hne s frequency entry hash value cost expiresAt
  exact trans (.inr hrewritten) (.shrink frequency key _ _ other)

theorem call (s : Shard) {call : ShardCall} (hne : call.key? ≠ some key) :
    KeptOrGone key s (s.call call).2 := by
  cases call with
  | get frequency k now =>
    have hkey : key ≠ k := fun heq => hne (congrArg some heq.symm)
    exact .get hkey s frequency now
  | delete k now => exact .delete s k key now
  | clear =>
    left
    simp [Shard.call, Shard.clear]
  | removeExpired order now => exact .removeAll .expired _ s key
  | set frequency k hash value cost expiresAt now =>
    have hkey : key ≠ k := fun heq => hne (congrArg some heq.symm)
    have hsets := s.set_sets frequency k hash value cost expiresAt now
    simp only [Shard.call]
    generalize s.set frequency k hash value cost expiresAt now = answer at hsets
    cases hsets with
    | tooLarge => exact .inr rfl
    | tooLate => exact .removeEntry s k key .expired
    | new _ _ _ hadmits =>
      exact trans (.removeEntry s k key .expired) (.admits hkey hadmits)
    | live => exact .overwrite hkey s frequency _ hash value cost expiresAt

end KeptOrGone

/-! ## One call -/

theorem Promotes.key?_eq {call : ShardCall} (h : s.Promotes key entry call) :
    call.key? = some key := by
  cases call with
  | get => exact congrArg some h.1
  | set => exact congrArg some h.1
  | delete => exact h.elim
  | clear => exact h.elim
  | removeExpired => exact h.elim

theorem set_live {now : Instant} (hcost : cost ≤ s.capacity)
    (hearly : expiredAt expiresAt now = false) (hget : s.entries[key]? = some entry)
    (hlive : entry.isExpired now = false) (frequency : UInt64 → Nat) (hash : UInt64)
    (value : ByteArray) :
    s.set frequency key hash value cost expiresAt now =
      .ok (s.overwrite frequency key entry hash value cost expiresAt) := by
  simp only [set, if_neg (not_lt.mpr hcost), hearly, hget, hlive, Bool.false_eq_true, if_false]

theorem segment?_call_set (hs : s.Accounted) (hget : s.entries[key]? = some entry)
    {now : Instant} (hstays : s.Stays key (.set frequency key hash value cost expiresAt now)) :
    (s.call (.set frequency key hash value cost expiresAt now)).2.segment? key = some .main ↔
      entry.segment = .main ∨
        s.Promotes key entry (.set frequency key hash value cost expiresAt now) := by
  obtain ⟨hresident, hsame⟩ := hstays
  have hsets := s.set_sets frequency key hash value cost expiresAt now
  simp only [Shard.call, Promotes] at hresident ⊢
  generalize s.set frequency key hash value cost expiresAt now = answer at hsets hresident
  cases hsets with
  | tooLarge hlarge => simp [segment?, hget, hlarge.not_ge]
  | tooLate => simp [get_removeEntry] at hresident
  | new hcost _ hvacant => exact absurd ⟨rfl, hcost, hvacant⟩ hsame
  | live hcost hearly hentry hlive =>
    obtain rfl := Option.some.inj (hget.symm.trans hentry)
    rw [segment?_overwrite hs hget, ← seenBefore_iff]
    simp only [hcost, hearly, hlive, true_and, Option.some.injEq]
    split
    · rename_i hmoves
      simp only [hmoves, or_true]
    · rename_i hmoves
      simp only [hmoves, or_false]

theorem segment?_call_get (hs : s.Accounted) (hget : s.entries[key]? = some entry)
    {now : Instant} (hstays : s.Stays key (.get frequency key now)) :
    (s.call (.get frequency key now)).2.segment? key = some .main ↔
      entry.segment = .main ∨ s.Promotes key entry (.get frequency key now) := by
  cases hexpired : entry.isExpired now with
  | true => simp [Stays, Shard.call, get, hget, hexpired, get_removeEntry] at hstays
  | false =>
    simp only [Shard.call, Promotes, segment?_get hs hget frequency hexpired, ← seenBefore_iff,
      hexpired, true_and, Option.some.injEq]
    cases seenBefore frequency entry.hash with
    | true => simp
    | false => simp

theorem segment?_call (hs : s.Accounted) (hget : s.entries[key]? = some entry) {call : ShardCall}
    (hstays : s.Stays key call) :
    (s.call call).2.segment? key = some .main ↔
      entry.segment = .main ∨ s.Promotes key entry call := by
  by_cases hkey : call.key? = some key
  · cases call with
    | get frequency k now =>
      obtain rfl : k = key := Option.some.inj hkey
      exact segment?_call_get hs hget hstays
    | set frequency k hash value cost expiresAt now =>
      obtain rfl : k = key := Option.some.inj hkey
      exact segment?_call_set hs hget hstays
    | delete k now =>
      obtain rfl : k = key := Option.some.inj hkey
      simp [Stays, Shard.call, delete, hget, get_removeEntry] at hstays
    | clear => simp [ShardCall.key?] at hkey
    | removeExpired => simp [ShardCall.key?] at hkey
  · have hnot : ¬s.Promotes key entry call := fun h => hkey h.key?_eq
    rcases KeptOrGone.call s hkey with hgone | hkept
    · exact absurd hgone hstays.1
    · rw [segment?, hkept, hget]
      simp [hnot]

theorem stays_of_promotes (hs : s.Accounted) (hget : s.entries[key]? = some entry)
    {call : ShardCall} (h : s.Promotes key entry call) : s.Stays key call := by
  have hheld : ∀ t : Shard, ∀ segment, t.segment? key = some segment → t.entries[key]? ≠ none := by
    intro t segment hsegment hnone
    rw [segment?, hnone] at hsegment
    exact absurd hsegment (by simp)
  cases call with
  | delete => exact h.elim
  | clear => exact h.elim
  | removeExpired => exact h.elim
  | get frequency k now =>
    obtain ⟨rfl, hlive, -⟩ := h
    exact ⟨hheld _ _ (segment?_get hs hget frequency hlive), id⟩
  | set frequency k hash value cost expiresAt now =>
    obtain ⟨rfl, hcost, hearly, hlive, -⟩ := h
    refine ⟨?_, fun hrenews => not_vacant_of_live hget hlive hrenews.2.2⟩
    simp only [Shard.call, set_live hcost hearly hget hlive]
    exact hheld _ _ (segment?_overwrite hs hget frequency hash value cost expiresAt)

/-! ## Runs -/

theorem segment?_after_main (hs : s.Accounted) (hmain : s.segment? key = some .main)
    (later : List ShardCall) (h : StaysThrough key s later) :
    (s.after later).segment? key = some .main := by
  induction later generalizing s with
  | nil => exact hmain
  | cons call later ih =>
    obtain ⟨hstays, hrest⟩ := h
    obtain ⟨entry, hget, hsegment⟩ := Option.map_eq_some_iff.mp hmain
    exact ih (hs.call call) ((segment?_call hs hget hstays).mpr (.inl hsegment)) hrest

theorem used_get (hs : s.Accounted) (frequency : UInt64 → Nat) (key : Key) (now : Instant) :
    (s.get frequency key now).2.used + (Content.stale now (s.contents key)).elim 0 (·.cost) =
      s.used := by
  have hbooked := (booked_get hs frequency key now).used_eq
  rw [(s.get_contents frequency key now).2.1] at hbooked
  cases hstale : Content.stale now (s.contents key) with
  | none =>
    simp only [hstale, Option.map_none, Option.toList_none, List.map_nil, List.sum_nil] at hbooked
    rw [Option.elim_none]
    omega
  | some content =>
    simp only [hstale, Option.map_some, Option.toList_some, List.map_singleton,
      List.sum_singleton, Content.report] at hbooked
    rw [Option.elim_some]
    omega

/-- In every state of every run the window keeps to its budget, what is in main stays there,
and an entry moves there in the calls that `Promotes` names and in no other. A read leaves all
live contents as they are. The used cost falls by what the read key cost if that is over. -/
theorem window_kept_and_promotion_one_way (capacity windowCapacity sampleSize : Nat)
    (random : Generator) (calls : List ShardCall) :
    let s := (empty capacity (.empty windowCapacity sampleSize random)).after calls
    (s.placement.windowCapacity = windowCapacity ∧
      s.placement.windowCost = segmentCost .window s.entries ∧
      segmentCost .window s.entries ≤ windowCapacity) ∧
    (∀ key later, s.segment? key = some .main → StaysThrough key s later →
      (s.after later).segment? key = some .main) ∧
    (∀ key entry call, s.entries[key]? = some entry → entry.segment = .window →
      (s.Stays key call ∧ (s.call call).2.segment? key = some .main ↔
        s.Promotes key entry call)) ∧
    ∀ frequency key now,
      (s.get frequency key now).2.used + (Content.stale now (s.contents key)).elim 0 (·.cost) =
          s.used ∧
        (s.get frequency key now).2.contents =
          Function.update s.contents key (Content.live now (s.contents key)) := by
  intro s
  have hnew := accounted_empty capacity windowCapacity sampleSize random
  have hs : s.Accounted := hnew.after calls
  have hcapacity : s.placement.windowCapacity = windowCapacity :=
    (sameSettings_after _ calls).windowCapacity
  have hcost : s.placement.windowCost = segmentCost .window s.entries := hs.places.cost_eq .window
  have hkept : s.placement.windowCost ≤ s.placement.windowCapacity :=
    (withinWindow_empty capacity windowCapacity sampleSize random).after hnew calls
  rw [hcost, hcapacity] at hkept
  refine ⟨⟨hcapacity, hcost, hkept⟩, fun key later hmain => segment?_after_main hs hmain later,
    ?_, ?_⟩
  · intro key entry call hget hwindow
    constructor
    · rintro ⟨hstays, hmain⟩
      simpa [hwindow] using (segment?_call hs hget hstays).mp hmain
    · intro hpromotes
      have hstays := stays_of_promotes hs hget hpromotes
      exact ⟨hstays, (segment?_call hs hget hstays).mpr (.inr hpromotes)⟩
  · intro frequency key now
    exact ⟨used_get hs frequency key now, (s.get_contents frequency key now).2.2⟩

/-- A read of an entry that is over drops it, and what it cost is free again. -/
theorem used_falls_on_expired_read :
    let s := (empty 10 (.empty 1 1 (.ofSeed 0))).after
      [.set (fun _ => 0) [97] 0xaf63dc4c8601ec8c ⟨#[49]⟩ 3 (some 5) 0]
    s.used = 3 ∧ (s.get (fun _ => 0) [97] 5).2.used = 0 := by
  decide +kernel

end Shard

end LfuCache
