import Mathlib
import LfuCache.Proofs.Shard.Overwrites
import LfuCache.Proofs.Shard.Rounds

/-!
# Both loops end

What is freed does not measure how far a loop has come, for a resident may cost nothing. The
residents do: an admission never chooses one of them twice, and a turn of the eviction loop
takes one of them out. So the bounds that the loops are given are never what stops them.
-/

namespace LfuCache.Shard

open Admission

variable {s t : Shard} {frequency : UInt64 → Nat} {key keep : Key} {old : Entry}
  {victims : List Victim}

/-! ## Turns of the eviction loop -/

theorem shrink_of_turns (h : Turns frequency keep s victims t) (left : Nat) :
    shrink frequency keep (victims.length + left) s =
      (victims.map reportOfVictim ++ (shrink frequency keep left t).1,
        (shrink frequency keep left t).2) := by
  induction h with
  | stop s => simp
  | @turn s _ v victims hover hvictim _ ih =>
    obtain ⟨⟨entry, hget, hhash, hcost⟩, -⟩ := nextVictim_resident hvictim
    have hget' : (s.sampled keep).entries[v.key]? = some entry := hget
    rw [List.length_cons, Nat.add_right_comm, shrink_of_some hover hvictim, ih, removeEntry_fst,
      hget', List.map_cons, reportOfVictim, hhash, hcost]
    rfl

theorem shrink_of_rests (hs : s.Accounted) (h : Rests keep s t) (left : Nat) :
    shrink frequency keep (left + 1) s = ([], t) := by
  cases h with
  | room hroom => exact shrink_of_le hroom _
  | nobody hover hnil =>
    apply shrink_of_none hover
    rw [nextVictim, weakest_eq_none_iff, sampleVictims_eq_nil_iff hs.places, hnil]

theorem length_add_one_le_size (hget : s.entries[key]? = some old)
    (hnodup : (victims.map (·.key)).Nodup)
    (hresident : ∀ v ∈ victims, IsResident s.entries v ∧ v.key ≠ key) :
    victims.length + 1 ≤ s.size := by
  have hkeys : ∀ k ∈ key :: victims.map (·.key), k ∈ s.entries.keys := by
    simp only [List.forall_mem_cons, List.forall_mem_map]
    exact ⟨mem_keys_of_get hget, fun v hv => mem_keys_of_resident (hresident v hv).1⟩
  have hnew := notMem_keys fun v hv => (hresident v hv).2
  have hle := (List.subperm_of_subset (List.nodup_cons.mpr ⟨hnew, hnodup⟩) hkeys).length_le
  rwa [List.length_cons, List.length_map, Std.TreeMap.length_keys] at hle

/-- The loop takes these victims and then rests. It would do so with any turns to spare. -/
structure EvictsAndRests (s : Shard) (frequency : UInt64 → Nat) (keep : Key)
    (victims : List Victim) (t : Shard) : Prop where
  rests : ∃ last, Turns frequency keep s victims last ∧ Rests keep last t
  shrink_eq : ∀ turns, victims.length < turns →
    shrink frequency keep turns s = (victims.map reportOfVictim, t)

theorem Shrinks.evictsAndRests (h : s.Shrinks frequency keep victims t) (hs : s.Accounted) :
    s.EvictsAndRests frequency keep victims t where
  rests := h.rests
  shrink_eq turns hturns := by
    obtain ⟨last, hlast, hrests⟩ := h.rests
    obtain ⟨left, rfl⟩ := Nat.exists_eq_add_of_lt hturns
    rw [Nat.add_assoc, shrink_of_turns hlast, shrink_of_rests (hs.changes hlast.changes) hrests,
      List.append_nil]

/-! ## Both loops -/

/-- A sampler that draws from a finite pool is asked at most once more than the pool has keys. So
a shard lets a new key in or refuses it in no more rounds than it has residents, and one, and a
write over a live entry evicts fewer entries than there are residents before it rests. -/
theorem eviction_loops_end :
    (∀ {σ : Type} {pool : Finset Key} {reached : σ → Prop}
        {sample : List Key → σ → List Victim × σ} {state : σ},
      DrawsFrom pool reached sample → reached state →
      ∀ (frequency : UInt64 → Nat) (candidate : UInt64) (needed : Nat), ∃ decision last,
        AnswersWithin frequency candidate needed sample state (pool.card + 1) decision last) ∧
    (∀ {s : Shard} {key : Key} {cost : Nat} {expiresAt : Option Instant} {now : Instant},
      s.Vacant key now → cost ≤ s.capacity → expiredAt expiresAt now = false →
      ∀ (frequency : UInt64 → Nat) (hash : UInt64) (value : ByteArray),
        let u := (s.removeEntry key .expired).2
        ∃ decision last result t,
          AnswersWithin frequency hash (u.used + cost - u.capacity) (sampleVictims u.entries)
            u.placement (u.size + 1) decision last ∧
          s.set frequency key hash value cost expiresAt now = .ok (result, t) ∧
          (result.admitted = true ↔ decision ≠ .refuse)) ∧
    ∀ {s : Shard} {key : Key} {old : Entry} {cost : Nat} {expiresAt : Option Instant}
        {now : Instant},
      s.Accounted → s.entries[key]? = some old → old.isExpired now = false → cost ≤ s.capacity →
      expiredAt expiresAt now = false →
      ∀ (frequency : UInt64 → Nat) (hash : UInt64) (value : ByteArray), ∃ victims t,
        s.set frequency key hash value cost expiresAt now =
          .ok (⟨true, victims.map reportOfVictim⟩, t.record .set) ∧
        victims.length + 1 ≤ s.size ∧
        ((s.touch frequency key old hash).rewrite key value cost expiresAt).EvictsAndRests
          frequency key victims t := by
  refine ⟨?sampler, ?admission, ?overwrite⟩
  case sampler =>
    intro σ pool reached sample state hdraws hstate frequency candidate needed
    exact hdraws.answersWithin hstate frequency candidate needed
  case admission =>
    intro s key cost expiresAt now hvacant hcost hearly frequency hash value u
    obtain ⟨decision, last, hanswer⟩ :=
      u.judges_within_size frequency hash (u.used + cost - u.capacity)
    exact ⟨decision, last, _, _, hanswer,
      set_of_vacant hvacant hcost hearly frequency hash value, admitted_tryAdmit_iff hanswer⟩
  case overwrite =>
    intro s key old cost expiresAt now hs hget hlive hcost hearly frequency hash value
    obtain ⟨victims, hresult, h⟩ :=
      overwrites_overwrite hs hget frequency hash value cost expiresAt
    obtain ⟨t, hshrinks, hfinal⟩ := h.turns
    refine ⟨victims, t, ?_, length_add_one_le_size hget h.nodup h.resident, ?_⟩
    · rw [set_live hcost hearly hget hlive, ← hresult, ← hfinal]
    · exact hshrinks.evictsAndRests
        (hs.changes (changes_rewritten hget frequency hash value cost expiresAt))

/-- Two victims that cost nothing are chosen one after the other, and the third call finds nobody.
A full shard takes a new key, and one of its keys grows at the cost of the others. -/
theorem eviction_loops_end_in_full_shard :
    let offer (chosen : List Key) (_ : Unit) : List Victim × Unit :=
      ([⟨[97], 0, 0⟩, ⟨[98], 0, 0⟩].filter fun v => v.key ∉ chosen, ())
    let put (key : UInt8) : ShardCall := .set (fun _ => 0) [key] key.toUInt64 ⟨#[]⟩ 2 none 0
    let s := (empty 6 (.empty 1 1 (.ofSeed 0))).after [put 97, put 98, put 99]
    let u := (s.removeEntry [100] .expired).2
    (judge UInt64.toNat 9 1 offer 2 () = none ∧
      ∃ decision last, AnswersWithin UInt64.toNat 9 1 offer ()
        (({[97], [98]} : Finset Key).card + 1) decision last) ∧
    (∃ decision last result t,
      AnswersWithin UInt64.toNat 200 (u.used + 4 - u.capacity) (sampleVictims u.entries)
        u.placement (u.size + 1) decision last ∧
      s.set UInt64.toNat [100] 200 ⟨#[]⟩ 4 none 5 = .ok (result, t) ∧
      (result.admitted = true ↔ decision ≠ .refuse)) ∧
    ∃ victims t,
      s.set UInt64.toNat [98] 98 ⟨#[49]⟩ 6 (some 9) 5 =
        .ok (⟨true, victims.map reportOfVictim⟩, t.record .set) ∧
      victims.length + 1 ≤ s.size ∧
      ((s.touch UInt64.toNat [98] ⟨⟨#[]⟩, 2, 98, none, .main⟩ 98).rewrite [98] ⟨#[49]⟩ 6
        (some 9)).EvictsAndRests UInt64.toNat [98] victims t := by
  intro offer put s u
  have hdraws : DrawsFrom {[97], [98]} (fun _ => True) offer := by
    refine ⟨fun _ _ _ => trivial, fun chosen _ _ v hv => ?_⟩
    obtain ⟨hmem, hnew⟩ := List.mem_filter.mp hv
    refine ⟨?_, of_decide_eq_true hnew⟩
    simp only [List.mem_cons, List.not_mem_nil, or_false] at hmem
    rcases hmem with rfl | rfl <;> decide
  obtain ⟨hsampler, hadmission, hoverwrite⟩ := eviction_loops_end
  refine ⟨⟨by decide, hsampler hdraws trivial _ _ _⟩, ?_, ?_⟩
  · exact hadmission (by decide) (by decide) (by decide) _ _ _
  · exact hoverwrite ((accounted_empty 6 1 1 (.ofSeed 0)).after _) (by rfl) (by decide) (by decide)
      (by decide) _ _ _

end LfuCache.Shard
