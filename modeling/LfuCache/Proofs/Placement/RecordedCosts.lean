import Mathlib
import LfuCache.Proofs.Placement.History

/-!
# The costs that a history records

An insertion records what a key costs, and so does a change of its cost. If calls name costs
as they are recorded, the cost of each segment is the sum of what is recorded for its keys.
-/

namespace LfuCache

def PlacementCall.record (costs : Key → Nat) : PlacementCall → Key → Nat
  | .insert key _ cost => Function.update costs key cost
  | .adjustCost key _ _ new => Function.update costs key new
  | _ => costs

def recordedCost (calls : List PlacementCall) : Key → Nat :=
  calls.foldl PlacementCall.record fun _ => 0

theorem recordedCost_concat (calls : List PlacementCall) (call : PlacementCall) :
    recordedCost (calls ++ [call]) = call.record (recordedCost calls) := List.foldl_concat ..

namespace Placement

/-- The costs that a call names are those that are recorded. -/
def NamesCosts (p : Placement) (costs : Key → Nat) : PlacementCall → Prop
  | .remove key segment cost => key ∈ p.keysIn segment → cost = costs key
  | .promote key cost => key ∈ p.keysIn .window → cost = costs key
  | .adjustCost key segment old _ => key ∈ p.keysIn segment ∧ old = costs key
  | .insert _ _ _ | .clear | .sample _ => True

instance (p : Placement) (costs : Key → Nat) :
    (call : PlacementCall) → Decidable (p.NamesCosts costs call)
  | .remove _ _ _ | .promote _ _ => inferInstanceAs (Decidable (_ → _))
  | .adjustCost _ _ _ _ => inferInstanceAs (Decidable (_ ∧ _))
  | .insert _ _ _ | .clear | .sample _ => inferInstanceAs (Decidable True)

abbrev NamesCostsAlong (p : Placement) : List PlacementCall → Prop :=
  Follows fun before => (p.after before).NamesCosts (recordedCost before)

variable {p : Placement} {costs : Key → Nat} {calls : List PlacementCall}

/-! ## The costs after a run -/

/-- Each segment costs what its keys cost. -/
def SumsUp (p : Placement) (costs : Key → Nat) : Prop :=
  ∀ segment, p.costIn segment = ((p.keysIn segment).map costs).sum

theorem sum_update_of_not_mem {keys : List Key} {key : Key} (h : key ∉ keys) (cost : Nat) :
    (keys.map (Function.update costs key cost)).sum = (keys.map costs).sum := by
  congr 1
  apply List.map_congr_left
  intro k hk
  have hne : k ≠ key := by
    rintro rfl
    exact h hk
  exact Function.update_of_ne hne cost costs

theorem sum_erase (costs : Key → Nat) {keys : List Key} {key : Key} (h : key ∈ keys) :
    costs key + ((keys.erase key).map costs).sum = (keys.map costs).sum := by
  have hperm := (List.perm_cons_erase h).map costs
  rw [hperm.sum_eq, List.map_cons, List.sum_cons]

theorem sum_update_of_mem {keys : List Key} {key : Key} (hnodup : keys.Nodup) (h : key ∈ keys)
    (cost : Nat) :
    (keys.map (Function.update costs key cost)).sum = (keys.map costs).sum - costs key + cost := by
  have hold := sum_erase costs h
  have hnew := sum_erase (Function.update costs key cost) h
  rw [sum_update_of_not_mem hnodup.not_mem_erase, Function.update_self] at hnew
  omega

theorem perm_keysIn_remove (h : p.Indexed) (key : Key) (segment : Segment) (cost : Nat) :
    ((p.remove key segment cost).keysIn segment).Perm ((p.keysIn segment).erase key) := by
  have hnodup := h.nodup_keysIn segment
  apply (List.perm_ext_iff_of_nodup ((h.remove key segment cost).nodup_keysIn segment)
    (hnodup.erase key)).mpr
  intro other
  rw [mem_keysIn_remove h, hnodup.mem_erase_iff]
  tauto

theorem not_mem_other (hdisjoint : (p.keysIn .window).Disjoint (p.keysIn .main)) {key : Key}
    {segment other : Segment} (hmem : key ∈ p.keysIn segment) (hne : other ≠ segment) :
    key ∉ p.keysIn other := by
  intro hother
  cases segment with
  | window =>
    cases other with
    | window => exact hne rfl
    | main => exact hdisjoint hmem hother
  | main =>
    cases other with
    | window => exact hdisjoint hother hmem
    | main => exact hne rfl

namespace SumsUp

variable {key : Key} {segment : Segment} {cost : Nat}

theorem remove (h : p.SumsUp costs) (hp : p.Indexed)
    (hcost : key ∈ p.keysIn segment → cost = costs key) :
    (p.remove key segment cost).SumsUp costs := by
  by_cases hmem : key ∈ p.keysIn segment
  · intro place
    rw [costIn_remove hp place cost hmem, h place, hcost hmem]
    by_cases hplace : place = segment
    · subst hplace
      have hsum := sum_erase costs hmem
      rw [((perm_keysIn_remove hp key place (costs key)).map costs).sum_eq, if_pos rfl]
      omega
    · rw [keysIn_remove_of_ne hp key _ hplace, if_neg hplace, Nat.sub_zero]
  · rw [remove_of_not_mem hp cost hmem]
    exact h

theorem insert (h : p.SumsUp costs) (hp : p.Indexed) (hcost : cost = costs key) :
    (p.insert key segment cost).SumsUp costs := by
  intro place
  rw [costIn_insert, h place]
  by_cases hplace : place = segment
  · subst hplace
    simp [keysIn_insert_self hp, hcost]
  · simp [keysIn_insert_of_ne p key cost hplace, hplace]

theorem call (h : p.SumsUp costs) (hp : p.Indexed)
    (hdisjoint : (p.keysIn .window).Disjoint (p.keysIn .main)) {call : PlacementCall}
    (hnew : p.InsertsNew call) (hcosts : p.NamesCosts costs call) :
    (p.call call).SumsUp (call.record costs) := by
  cases call with
  | insert key segment cost =>
    -- The key is in neither segment yet, so that its cost is recorded changes no sum.
    have hsame : p.SumsUp (Function.update costs key cost) := by
      intro place
      cases place with
      | window => rw [h .window, sum_update_of_not_mem hnew.1]
      | main => rw [h .main, sum_update_of_not_mem hnew.2]
    exact hsame.insert hp (by rw [Function.update_self])
  | remove key segment cost => exact h.remove hp hcosts
  | promote key cost =>
    by_cases hmem : key ∈ p.keysIn .window
    · simp only [Placement.call, promote_of_mem hp cost hmem]
      exact (h.remove hp hcosts).insert (hp.remove key .window cost) (hcosts hmem)
    · simp only [Placement.call, promote_of_not_mem hp cost hmem]
      exact h
  | adjustCost key segment old new =>
    obtain ⟨hmem, rfl⟩ := hcosts
    intro place
    simp only [Placement.call, PlacementCall.record]
    rw [costIn_adjustCost, keysIn_adjustCost, h place]
    by_cases hplace : place = segment
    · subst hplace
      rw [if_pos rfl, sum_update_of_mem (hp.nodup_keysIn place) hmem]
    · have hout : key ∉ p.keysIn place := not_mem_other hdisjoint hmem hplace
      rw [if_neg hplace, sum_update_of_not_mem hout]
  | clear =>
    intro segment
    cases segment <;> rfl
  | sample exclude => exact h

end SumsUp

/-! ## Runs of a new placement -/

section

variable (windowCapacity sampleSize : Nat) (random : Generator) (calls : List PlacementCall)

theorem sumsUp_after
    (hnew : (empty windowCapacity sampleSize random).InsertsNewAlong calls)
    (hcosts : (empty windowCapacity sampleSize random).NamesCostsAlong calls) :
    ((empty windowCapacity sampleSize random).after calls).SumsUp (recordedCost calls) := by
  induction calls using List.reverseRecOn with
  | nil =>
    intro segment
    cases segment <;> rfl
  | append_singleton calls call ih =>
    obtain ⟨hbefore, hcall⟩ := hnew.of_concat
    obtain ⟨hcostsBefore, hcost⟩ := hcosts.of_concat
    have h := recalls_after windowCapacity sampleSize random calls hbefore
    rw [after_concat, recordedCost_concat]
    exact (ih hbefore hcostsBefore).call h.indexed h.disjoint hcall hcost

/-- If every inserted key is new, the indexes agree and the two segments hold what the history
tells. If the calls also name costs as they are recorded, each segment costs their sum. A key
is taken out of a segment, or promoted, only if it is there. -/
theorem segments_tell_history
    (hnew : (empty windowCapacity sampleSize random).InsertsNewAlong calls) :
    let p := (empty windowCapacity sampleSize random).after calls
    p.Indexed ∧
      (∀ segment, (p.keysIn segment).Nodup) ∧
      p.keysIn .window = arrivals calls ∧
      (∀ key, key ∈ p.keysIn .main ↔ HeldInMain calls key) ∧
      ((empty windowCapacity sampleSize random).NamesCostsAlong calls →
        ∀ segment, p.costIn segment = ((p.keysIn segment).map (recordedCost calls)).sum) ∧
      (∀ key segment cost, key ∉ p.keysIn segment → p.remove key segment cost = p) ∧
      (∀ key cost, key ∉ p.keysIn .window → p.promote key cost = (false, p)) ∧
      ∀ key cost, (p.promote key cost).1 = true ↔ key ∈ p.keysIn .window := by
  intro p
  have h : p.Recalls calls := recalls_after windowCapacity sampleSize random calls hnew
  refine ⟨h.indexed, h.indexed.nodup_keysIn, h.window_eq, h.main_iff,
    sumsUp_after windowCapacity sampleSize random calls hnew,
    fun key segment cost => remove_of_not_mem h.indexed cost,
    fun key cost => promote_of_not_mem h.indexed cost, ?_⟩
  intro key cost
  by_cases hmem : key ∈ p.keysIn .window
  · simp [promote_of_mem h.indexed cost hmem, hmem]
  · simp [promote_of_not_mem h.indexed cost hmem, hmem]

/-- Of three keys one is promoted, one changes its cost, and one leaves main and comes back to
the end of the window. -/
theorem segments_tell_history_of_eight_calls :
    let new := empty 10 5 (.ofSeed 0)
    let calls : List PlacementCall :=
      [.insert [97] .window 2, .insert [98] .main 3, .insert [99] .window 1, .promote [97] 2,
        .adjustCost [99] .window 1 4, .sample [], .remove [98] .main 3, .insert [98] .window 5]
    new.InsertsNewAlong calls ∧ new.NamesCostsAlong calls ∧
      (new.after calls).keysIn .window = arrivals calls ∧ arrivals calls = [[99], [98]] ∧
      HeldInMain calls [97] ∧ (new.after calls).costIn .window = 9 := by
  intro new calls
  have hnew : new.InsertsNewAlong calls := by decide +kernel
  have hcosts : new.NamesCostsAlong calls := by decide +kernel
  obtain ⟨-, -, hwindow, hmain, hsums, -⟩ := segments_tell_history 10 5 (.ofSeed 0) calls hnew
  refine ⟨hnew, hcosts, hwindow, by decide +kernel, (hmain [97]).mp (by decide +kernel), ?_⟩
  rw [hsums hcosts .window]
  decide +kernel

end

end Placement

end LfuCache
