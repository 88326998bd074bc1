import Mathlib
import LfuCache.Proofs.Engine.Mirror

/-!
# A cache with room for everything

Window, main, samples and the sketch decide who has to go. In a run that always leaves room
nobody has to, so that the cache is a plain map, whatever its tuning.
-/

namespace LfuCache.Engine

variable {config : CacheConfig} {e : Engine} {m : PlainMap}

/-! ## Runs -/

/-- The calls of a run, with steps of the worker anywhere between them. -/
inductive Interleaves : List PlainCall → List EngineCall → Prop where
  | nil : Interleaves [] []
  | call {calls : List PlainCall} {run : List EngineCall} (call : PlainCall) :
    Interleaves calls run → Interleaves (call :: calls) (call.onCache :: run)
  | learn {calls : List PlainCall} {run : List EngineCall} (feed : Feed) :
    Interleaves calls run → Interleaves calls (.learn feed :: run)

/-- The worker answers nobody. -/
def heard : EngineCall × EngineAnswer → Option EngineAnswer
  | (.learn _, _) => none
  | (_, answer) => some answer

def answers (e : Engine) (run : List EngineCall) : List EngineAnswer :=
  (e.log run).filterMap heard

theorem Mirrors.learn (h : Mirrors config e m) (feed : Feed) :
    Mirrors config { e with feed } m where
  sound := ⟨h.sound.config_eq, h.sound.size_eq, h.sound.shard⟩
  accounted := h.accounted
  contents := h.contents
  size := h.size

theorem outcomes_cons (answer : EngineAnswer) (answers : List EngineAnswer) :
    (answer :: answers).filterMap (·.outcome?) =
      answer.outcome?.toList ++ answers.filterMap (·.outcome?) := by
  cases houtcome : answer.outcome? with
  | none =>
    rw [List.filterMap_cons_none houtcome]
    rfl
  | some outcome =>
    rw [List.filterMap_cons_some houtcome]
    rfl

theorem Mirrors.run {calls : List PlainCall} {run : List EngineCall} (h : Mirrors config e m)
    (httl : config.defaultTtl = none) (hroomy : PlainMap.Roomy config m calls)
    (hrun : Interleaves calls run) :
    e.answers run = m.answers calls ∧ Mirrors config (e.after run) (m.after calls) ∧
      ∀ o, (e.after run).total (·.counters.of o) =
        e.total (·.counters.of o) + ((m.answers calls).filterMap (·.outcome?)).count o := by
  induction hrun generalizing e m with
  | nil => exact ⟨rfl, h, fun o => rfl⟩
  | @learn calls run feed _ ih => exact ih (h.learn feed) hroomy
  | @call calls run call _ ih =>
    obtain ⟨hroom, hrest⟩ := hroomy
    have htracks := h.tracks httl call hroom
    obtain ⟨hanswers, hmirrors, hcounters⟩ := ih htracks.mirrors hrest
    refine ⟨?_, hmirrors, ?_⟩
    · have hheard : heard (call.onCache, (m.call call).1) = some (m.call call).1 := by
        cases call <;> rfl
      rw [answers, log, htracks.answer, List.filterMap_cons_some hheard]
      exact congrArg _ hanswers
    · intro o
      rw [PlainMap.answers, outcomes_cons, List.count_append, ← Nat.add_assoc, ← htracks.counters]
      exact hcounters o

/-! ## A new cache -/

theorem mirrors_new (entropy : Nat → Generator) (hvalid : config.validate = .ok ()) :
    ∃ new, ofConfig config entropy = .ok new ∧ Mirrors config new ∅ ∧
      ∀ o, new.total (·.counters.of o) = 0 := by
  obtain ⟨new, hnew, hsound, hempty⟩ := ofConfig_sound entropy hvalid
  refine ⟨new, hnew, ⟨hsound, accounted_after_new hnew [], ?_, ?_⟩, ?_⟩
  · intro key
    rw [hempty]
    simp
  · rw [size_eq_total]
    exact total_new hnew fun i => rfl
  · intro o
    apply total_new hnew
    intro i
    cases o <;> rfl

/-- The cache may have no time to live of its own, and must have room in every shard. -/
structure Ample (config : CacheConfig) (calls : List PlainCall) : Prop where
  valid : config.validate = .ok ()
  lasting : config.defaultTtl = none
  roomy : PlainMap.Roomy config ∅ calls

/-- A run answers as the plain map does, and its numbers are those of the plain map. -/
structure KeepsUp (new : Engine) (calls : List PlainCall) (run : List EngineCall) : Prop where
  answers : new.answers run = PlainMap.answers ∅ calls
  rejections : (new.after run).stats.rejections = 0
  evictions : (new.after run).stats.evictions = 0
  hits : (new.after run).stats.hits = PlainMap.hits ∅ calls
  misses : (new.after run).stats.misses = PlainMap.misses ∅ calls
  size : (new.after run).size = (PlainMap.after ∅ calls).size

theorem outcome_of_mem_answers {calls : List PlainCall} {answer : EngineAnswer}
    (h : answer ∈ m.answers calls) :
    answer.outcome? ≠ some .rejection ∧ answer.outcome? ≠ some .eviction := by
  induction calls generalizing m with
  | nil => exact absurd h (by simp [PlainMap.answers])
  | cons call calls ih =>
    rcases List.mem_cons.mp h with rfl | hmem
    · cases call with
      | get key now =>
        cases hget : m[key.val]? <;> simp [PlainMap.call, EngineAnswer.outcome?, hget]
      | _ => simp [PlainMap.call, EngineAnswer.outcome?]
    · exact ih hmem

theorem keepsUp_of_mirrors {new : Engine} {calls : List PlainCall} {run : List EngineCall}
    (h : Mirrors config new ∅) (hzero : ∀ o, new.total (·.counters.of o) = 0)
    (httl : config.defaultTtl = none) (hroomy : PlainMap.Roomy config ∅ calls)
    (hrun : Interleaves calls run) : KeepsUp new calls run := by
  obtain ⟨hanswers, hmirrors, hcounters⟩ := h.run httl hroomy hrun
  have hcount : ∀ o, (new.after run).total (·.counters.of o) =
      (PlainMap.answers ∅ calls).countP fun a => a.outcome? == some o := by
    intro o
    rw [hcounters, hzero, Nat.zero_add, List.count_filterMap]
  refine ⟨hanswers, ?_, ?_, ?_, ?_, hmirrors.size⟩
  all_goals rw [stats_eq]
  · refine (hcount .rejection).trans (List.countP_eq_zero.mpr fun answer hanswer => ?_)
    simpa using (outcome_of_mem_answers hanswer).1
  · refine (hcount .eviction).trans (List.countP_eq_zero.mpr fun answer hanswer => ?_)
    simpa using (outcome_of_mem_answers hanswer).2
  · refine (hcount .hit).trans ?_
    rw [PlainMap.hits]
    congr 1
    funext answer
    cases answer with
    | found value => cases value <;> rfl
    | wrote stored => cases stored <;> rfl
    | _ => rfl
  · refine (hcount .miss).trans ?_
    rw [PlainMap.misses]
    congr 1
    funext answer
    cases answer with
    | found value => cases value <;> rfl
    | wrote stored => cases stored <;> rfl
    | _ => rfl

/-- Whatever its tuning, a valid cache without a default time to live is a plain map as long as
it has room. So two such caches give the same answers. -/
theorem ample_cache_is_plain_map (entropy : Nat → Generator) (calls : List PlainCall)
    (h : Ample config calls) :
    ∃ new, ofConfig config entropy = .ok new ∧
      (∀ run, Interleaves calls run → KeepsUp new calls run) ∧
      ∀ other otherEntropy, Ample other calls →
        ∃ otherNew, ofConfig other otherEntropy = .ok otherNew ∧
          ∀ run otherRun, Interleaves calls run → Interleaves calls otherRun →
            otherNew.answers otherRun = new.answers run := by
  obtain ⟨new, hnew, hmirrors, hzero⟩ := mirrors_new entropy h.valid
  have hkeeps : ∀ run, Interleaves calls run → KeepsUp new calls run := fun run hrun =>
    keepsUp_of_mirrors hmirrors hzero h.lasting h.roomy hrun
  refine ⟨new, hnew, hkeeps, ?_⟩
  intro other otherEntropy hother
  obtain ⟨otherNew, hotherNew, hotherMirrors, hotherZero⟩ := mirrors_new otherEntropy hother.valid
  refine ⟨otherNew, hotherNew, fun run otherRun hrun hotherRun => ?_⟩
  have hsame := keepsUp_of_mirrors hotherMirrors hotherZero hother.lasting hother.roomy hotherRun
  rw [hsame.answers, (hkeeps run hrun).answers]

/-- Two keys fill a shard of four units, with a write that outgrows the window. -/
theorem full_cache_is_plain_map :
    let config : CacheConfig := { totalCapacity := 8, shardCount := 2 }
    let a : ProperKey := ⟨[97], by decide⟩
    let b : ProperKey := ⟨[99], by decide⟩
    let calls : List PlainCall :=
      [.set a ⟨#[1]⟩ none 0, .set b ⟨#[]⟩ none 1, .set a ⟨#[2]⟩ (some 3) 2, .get a 3, .delete b 4]
    Ample config calls ∧
      ∃ new, ofConfig config (fun _ => .ofSeed 0) = .ok new ∧
        (∀ run, Interleaves calls run → KeepsUp new calls run) ∧
        ∀ other otherEntropy, Ample other calls →
          ∃ otherNew, ofConfig other otherEntropy = .ok otherNew ∧
            ∀ run otherRun, Interleaves calls run → Interleaves calls otherRun →
              otherNew.answers otherRun = new.answers run := by
  intro config a b calls
  have hample : Ample config calls := ⟨by decide, rfl, by decide +kernel⟩
  exact ⟨hample, ample_cache_is_plain_map (fun _ => .ofSeed 0) calls hample⟩

end LfuCache.Engine
