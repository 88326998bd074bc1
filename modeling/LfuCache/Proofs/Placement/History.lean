import Mathlib
import LfuCache.Proofs.Placement.Sample

/-!
# The history of a placement

What a placement holds can be told from the calls that led to it. The window holds what was
inserted there and not taken out since, the first one first. Main holds what was put there and
not taken out since.
-/

namespace LfuCache

inductive PlacementCall where
  | insert (key : Key) (segment : Segment) (cost : Nat)
  | remove (key : Key) (segment : Segment) (cost : Nat)
  | promote (key : Key) (cost : Nat)
  /-- The key is named for the history. The placement is only told the segment. -/
  | adjustCost (key : Key) (segment : Segment) (old new : Nat)
  | clear
  | sample (exclude : List Key)

/-! ## What calls say about a key -/

namespace PlacementCall

def arrival : PlacementCall → List Key
  | .insert key .window _ => [key]
  | _ => []

/-- After the call the key is not in the segment. -/
def takes (key : Key) (segment : Segment) : PlacementCall → Bool
  | .remove k place _ => decide (k = key ∧ place = segment)
  | .promote k _ => decide (k = key ∧ segment = .window)
  | .clear => true
  | .insert _ _ _ | .adjustCost _ _ _ _ | .sample _ => false

/-- The call puts the key in main, if the window holds these keys before. -/
def PutsInMain (window : List Key) (key : Key) : PlacementCall → Prop
  | .insert k .main _ => k = key
  | .promote k _ => k = key ∧ key ∈ window
  | _ => False

end PlacementCall

/-- The keys inserted in the window that no later call takes out. -/
def arrivals : List PlacementCall → List Key
  | [] => []
  | call :: later =>
    (call.arrival.filter fun key => !later.any (·.takes key .window)) ++ arrivals later

/-- Some call puts the key in main, and no later one takes it out. -/
def HeldInMain (calls : List PlacementCall) (key : Key) : Prop :=
  ∃ before call later, calls = before ++ call :: later ∧
    call.PutsInMain (arrivals before) key ∧ ∀ c ∈ later, c.takes key .main = false

theorem arrivals_concat (calls : List PlacementCall) (call : PlacementCall) :
    arrivals (calls ++ [call]) =
      (arrivals calls).filter (fun key => !call.takes key .window) ++ call.arrival := by
  induction calls with
  | nil => simp [arrivals]
  | cons first calls ih =>
    rw [List.cons_append, arrivals, arrivals, ih, List.filter_append, List.append_assoc,
      List.filter_filter]
    simp only [List.any_append, List.any_cons, List.any_nil, Bool.or_false, Bool.not_or,
      Bool.and_comm]

theorem heldInMain_concat (calls : List PlacementCall) (call : PlacementCall) (key : Key) :
    HeldInMain (calls ++ [call]) key ↔
      (HeldInMain calls key ∧ call.takes key .main = false) ∨
        call.PutsInMain (arrivals calls) key := by
  constructor
  · rintro ⟨before, putting, later, heq, hputs, hkept⟩
    -- The key is put there by the last call, or by an earlier one that the last leaves in force.
    cases later using List.reverseRecOn with
    | nil =>
      obtain ⟨rfl, hlast⟩ := List.append_inj' heq rfl
      obtain rfl := List.singleton_inj.mp hlast
      exact .inr hputs
    | append_singleton later last =>
      rw [← List.cons_append, ← List.append_assoc] at heq
      obtain ⟨rfl, hlast⟩ := List.append_inj' heq rfl
      obtain rfl := List.singleton_inj.mp hlast
      refine .inl ⟨⟨before, putting, later, rfl, hputs, ?_⟩, hkept _ (by simp)⟩
      exact fun c hc => hkept c (List.mem_append_left _ hc)
  · rintro (⟨⟨before, putting, later, rfl, hputs, hkept⟩, hcall⟩ | hputs)
    · refine ⟨before, putting, later ++ [call], by simp, hputs, ?_⟩
      intro c hc
      rcases List.mem_append.mp hc with hc | hc
      · exact hkept c hc
      · rw [List.mem_singleton.mp hc]
        exact hcall
    · exact ⟨calls, call, [], rfl, hputs, by simp⟩

/-! ## Runs -/

/-- Each call of the run is as the rule says for the calls before it. -/
def Follows (rule : List PlacementCall → PlacementCall → Prop) (calls : List PlacementCall) :
    Prop :=
  ∀ i : Fin calls.length, rule (calls.take i) calls[i]

instance (rule : List PlacementCall → PlacementCall → Prop) [∀ b c, Decidable (rule b c)]
    (calls : List PlacementCall) : Decidable (Follows rule calls) :=
  inferInstanceAs (Decidable (∀ _ : Fin calls.length, _))

theorem Follows.of_concat {rule : List PlacementCall → PlacementCall → Prop}
    {calls : List PlacementCall} {call : PlacementCall} (h : Follows rule (calls ++ [call])) :
    Follows rule calls ∧ rule calls call := by
  constructor
  · intro i
    have hi := h ⟨i, by simp⟩
    simpa [List.take_append_of_le_length i.isLt.le] using hi
  · have hlast := h ⟨calls.length, by simp⟩
    simpa using hlast

namespace Placement

def call (p : Placement) : PlacementCall → Placement
  | .insert key segment cost => p.insert key segment cost
  | .remove key segment cost => p.remove key segment cost
  | .promote key cost => (p.promote key cost).2
  | .adjustCost _ segment old new => p.adjustCost segment old new
  | .clear => p.clear
  | .sample exclude => (p.sample exclude).2

def after (p : Placement) (calls : List PlacementCall) : Placement := calls.foldl call p

theorem after_concat (p : Placement) (calls : List PlacementCall) (call : PlacementCall) :
    p.after (calls ++ [call]) = (p.after calls).call call := List.foldl_concat ..

/-- An inserted key has no place yet. -/
def InsertsNew (p : Placement) : PlacementCall → Prop
  | .insert key _ _ => key ∉ p.keysIn .window ∧ key ∉ p.keysIn .main
  | _ => True

instance (p : Placement) : (call : PlacementCall) → Decidable (p.InsertsNew call)
  | .insert _ _ _ => inferInstanceAs (Decidable (_ ∧ _))
  | .remove _ _ _ | .promote _ _ | .adjustCost _ _ _ _ | .clear | .sample _ =>
    inferInstanceAs (Decidable True)

abbrev InsertsNewAlong (p : Placement) : List PlacementCall → Prop :=
  Follows fun before => (p.after before).InsertsNew

variable {p : Placement} {calls : List PlacementCall}

/-! ## The keys after a call -/

theorem keysIn_window_call (h : p.Indexed) (call : PlacementCall) :
    (p.call call).keysIn .window =
      (p.keysIn .window).filter (fun key => !call.takes key .window) ++ call.arrival := by
  have hnodup := h.nodup_keysIn .window
  have hfilter : ∀ key, (p.keysIn .window).erase key =
      (p.keysIn .window).filter fun k => !decide (key = k) := by
    intro key
    rw [hnodup.erase_eq_filter]
    apply List.filter_congr
    intro k _
    simp [bne, beq_eq_decide, eq_comm]
  cases call with
  | insert key segment cost =>
    simp only [call, PlacementCall.takes, Bool.not_false, List.filter_true]
    cases segment with
    | window => exact keysIn_insert_self h key .window cost
    | main => exact (keysIn_insert_of_ne p key cost (by decide)).trans (List.append_nil _).symm
  | remove key segment cost =>
    simp only [call, PlacementCall.takes, PlacementCall.arrival, List.append_nil]
    cases segment with
    | window =>
      rw [keysIn_remove_window h, hfilter]
      simp
    | main =>
      rw [keysIn_remove_of_ne h key cost (by decide)]
      simp
  | promote key cost =>
    simp only [call, PlacementCall.takes, PlacementCall.arrival, List.append_nil, and_true]
    rw [← hfilter]
    by_cases hmem : key ∈ p.keysIn .window
    · rw [promote_of_mem h cost hmem, keysIn_insert_of_ne _ _ _ (by decide), keysIn_remove_window h]
    · rw [promote_of_not_mem h cost hmem, List.erase_of_not_mem hmem]
  | adjustCost key segment old new =>
    simp [call, keysIn_adjustCost, PlacementCall.takes, PlacementCall.arrival]
  | clear =>
    simp only [PlacementCall.takes, PlacementCall.arrival, Bool.not_true, List.filter_false]
    rfl
  | sample exclude =>
    simp only [PlacementCall.takes, PlacementCall.arrival, Bool.not_false, List.filter_true,
      List.append_nil]
    rfl

theorem mem_main_call (h : p.Indexed) (call : PlacementCall) (key : Key) :
    key ∈ (p.call call).keysIn .main ↔
      (key ∈ p.keysIn .main ∧ call.takes key .main = false) ∨
        call.PutsInMain (p.keysIn .window) key := by
  cases call with
  | insert k segment cost =>
    simp only [call, mem_keysIn_insert h, PlacementCall.takes, and_true]
    cases segment <;> simp [PlacementCall.PutsInMain, eq_comm]
  | remove k segment cost =>
    simp only [call, mem_keysIn_remove h, PlacementCall.takes, PlacementCall.PutsInMain]
    grind
  | promote k cost =>
    simp only [call, PlacementCall.takes, PlacementCall.PutsInMain]
    by_cases hmem : k ∈ p.keysIn .window
    · rw [promote_of_mem h cost hmem, mem_keysIn_insert (h.remove k .window cost),
        mem_keysIn_remove h]
      grind
    · rw [promote_of_not_mem h cost hmem]
      grind
  | adjustCost k segment old new =>
    simp [call, keysIn_adjustCost, PlacementCall.takes, PlacementCall.PutsInMain]
  | clear => simp [call, clear, keysIn, PlacementCall.takes, PlacementCall.PutsInMain]
  | sample exclude =>
    simp only [PlacementCall.takes, PlacementCall.PutsInMain, and_true, or_false]
    rfl

/-! ## The keys after a run -/

/-- The placement holds what the history tells. -/
structure Recalls (p : Placement) (calls : List PlacementCall) : Prop where
  indexed : p.Indexed
  disjoint : (p.keysIn .window).Disjoint (p.keysIn .main)
  window_eq : p.keysIn .window = arrivals calls
  main_iff : ∀ key, key ∈ p.keysIn .main ↔ HeldInMain calls key

theorem indexed_call (h : p.Indexed) (hdisjoint : (p.keysIn .window).Disjoint (p.keysIn .main))
    {call : PlacementCall} (hnew : p.InsertsNew call) : (p.call call).Indexed := by
  cases call with
  | insert key segment cost =>
    apply h.insert cost
    cases segment with
    | window => exact hnew.1
    | main => exact hnew.2
  | remove key segment cost => exact h.remove key segment cost
  | promote key cost =>
    by_cases hmem : key ∈ p.keysIn .window
    · simp only [call, promote_of_mem h cost hmem]
      apply (h.remove key .window cost).insert cost
      rw [keysIn_remove_of_ne h key cost (by decide)]
      exact fun hmain => hdisjoint hmem hmain
    · simp only [call, promote_of_not_mem h cost hmem]
      exact h
  | adjustCost key segment old new => exact h.adjustCost segment old new
  | clear => exact indexed_clear p
  | sample exclude => exact ⟨h.window_slot, h.arrival_lt, h.main_slot⟩

theorem disjoint_call (h : p.Indexed) (hdisjoint : (p.keysIn .window).Disjoint (p.keysIn .main))
    {call : PlacementCall} (hnew : p.InsertsNew call) :
    ((p.call call).keysIn .window).Disjoint ((p.call call).keysIn .main) := by
  intro key hwindow hmain
  rw [keysIn_window_call h, List.mem_append, List.mem_filter] at hwindow
  rw [mem_main_call h] at hmain
  rcases hwindow with ⟨hwindow, hstays⟩ | harrives
  · rcases hmain with ⟨hmain, -⟩ | hputs
    · exact hdisjoint hwindow hmain
    · -- What comes to main was not in the window, or is taken out there.
      cases call with
      | insert k segment cost =>
        cases segment with
        | window => exact hputs.elim
        | main =>
          obtain rfl : k = key := hputs
          exact hnew.1 hwindow
      | promote k cost => simp [PlacementCall.takes, hputs.1] at hstays
      | _ => exact hputs.elim
  · cases call with
    | insert k segment cost =>
      cases segment with
      | window =>
        obtain rfl : key = k := List.mem_singleton.mp harrives
        rcases hmain with ⟨hmain, -⟩ | hputs
        · exact hnew.2 hmain
        · exact hputs
      | main => simp [PlacementCall.arrival] at harrives
    | _ => simp [PlacementCall.arrival] at harrives

theorem Recalls.call (h : p.Recalls calls) {call : PlacementCall} (hnew : p.InsertsNew call) :
    (p.call call).Recalls (calls ++ [call]) where
  indexed := indexed_call h.indexed h.disjoint hnew
  disjoint := disjoint_call h.indexed h.disjoint hnew
  window_eq := by rw [keysIn_window_call h.indexed, h.window_eq, arrivals_concat]
  main_iff key := by
    rw [mem_main_call h.indexed, h.main_iff, h.window_eq, heldInMain_concat]

theorem recalls_after (windowCapacity sampleSize : Nat) (random : Generator)
    (calls : List PlacementCall)
    (hnew : (empty windowCapacity sampleSize random).InsertsNewAlong calls) :
    ((empty windowCapacity sampleSize random).after calls).Recalls calls := by
  induction calls using List.reverseRecOn with
  | nil =>
    refine ⟨indexed_empty windowCapacity sampleSize random, List.disjoint_nil_left _, rfl, ?_⟩
    intro key
    simp [after, empty, keysIn, HeldInMain]
  | append_singleton calls call ih =>
    obtain ⟨hbefore, hcall⟩ := hnew.of_concat
    rw [after_concat]
    exact (ih hbefore).call hcall

/-! ## Arrival numbers -/

theorem nextArrival_remove (p : Placement) (key : Key) (segment : Segment) (cost : Nat) :
    (p.remove key segment cost).nextArrival = p.nextArrival := by
  cases segment with
  | window => cases hslot : p.windowSlots[key]? <;> simp [remove, takeWindow, hslot]
  | main => cases hslot : p.mainSlots[key]? <;> simp [remove, takeMain, hslot]

theorem nextArrival_promote (p : Placement) (key : Key) (cost : Nat) :
    (p.promote key cost).2.nextArrival = p.nextArrival := by
  unfold promote takeWindow
  cases p.windowSlots[key]? <;> rfl

theorem nextArrival_adjustCost (p : Placement) (segment : Segment) (old new : Nat) :
    (p.adjustCost segment old new).nextArrival = p.nextArrival := by
  cases segment <;> rfl

theorem nextArrival_call (p : Placement) (call : PlacementCall) :
    (p.call call).nextArrival = p.nextArrival + call.arrival.length := by
  cases call with
  | insert key segment cost => cases segment <;> rfl
  | remove key segment cost => exact p.nextArrival_remove key segment cost
  | promote key cost => exact p.nextArrival_promote key cost
  | adjustCost key segment old new => exact p.nextArrival_adjustCost segment old new
  | clear => rfl
  | sample exclude => rfl

theorem nextArrival_after (p : Placement) (calls : List PlacementCall) :
    (p.after calls).nextArrival = p.nextArrival + (calls.flatMap (·.arrival)).length := by
  induction calls using List.reverseRecOn with
  | nil => rfl
  | append_singleton calls call ih =>
    rw [after_concat, nextArrival_call, ih, List.flatMap_append, List.length_append,
      List.flatMap_singleton, Nat.add_assoc]

end Placement

end LfuCache
