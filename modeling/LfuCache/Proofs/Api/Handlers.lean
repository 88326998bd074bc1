import Mathlib
import LfuCache.Proofs.Api.Requests

/-!
# What handlers do

A handler makes one call of the cache, or none. `Handled` lists what can come of it: the
response, and under which condition.
-/

namespace LfuCache

/-- Capacity units of a request: the cost that it names, or one for each byte. -/
def SetRequest.charge (request : SetRequest) : Nat :=
  match request.cost with
  | none | some 0 => request.key.utf8ByteSize + request.value.utf8ByteSize
  | some (cost + 1) => cost + 1

namespace Api

open Http

theorem effectiveCost_eq (request : SetRequest) :
    Engine.effectiveCost (keyOf request.key) request.value.toUTF8 request.cost =
      request.charge := by
  unfold Engine.effectiveCost SetRequest.charge
  rw [keyOf, Text.length_bytes]
  rcases request.cost with - | - | cost <;> rfl

/-- The call that a request to set a value makes. -/
def write (request : SetRequest) (now : Instant) : EngineCall :=
  .set (keyOf request.key) request.value.toUTF8 request.cost
    (request.ttl.map (· * nanosecondsPerSecond)) now

/-- A call of a handler, its response, and the cache after it. -/
inductive Handled (config : CacheConfig) (e : Engine) (clocks : Clocks) :
    ApiCall → Response → Engine → Prop where
  | noKey {request : SetRequest} : request.key = "" →
    Handled config e clocks (.set request) (CacheError.invalidKey "Key cannot be empty").response e
  | tooLarge {request : SetRequest} : request.key ≠ "" →
    config.limit (keyOf request.key) < request.charge →
    Handled config e clocks (.set request)
      (CacheError.valueTooLarge request.charge (config.limit (keyOf request.key))).response e
  /-- The cache has decided whether it stores the value. -/
  | wrote {request : SetRequest} {stored : Bool} : request.key ≠ "" →
    request.charge ≤ config.limit (keyOf request.key) →
    (e.call (write request clocks.now)).1 = .wrote stored →
    Handled config e clocks (.set request) (.ofMessage 200 (SetReply.mk request.key stored))
      (e.call (write request clocks.now)).2
  | found {key value : String} {content : Content} : key ≠ "" →
    Content.live clocks.now (e.contents (keyOf key)) = some content →
    String.fromUTF8? content.value = some value →
    Handled config e clocks (.get key) (.ofMessage 200 (ValueReply.mk key value))
      (e.call (.get (keyOf key) clocks.now)).2
  | notText {key : String} {content : Content} : key ≠ "" →
    Content.live clocks.now (e.contents (keyOf key)) = some content →
    String.fromUTF8? content.value = none →
    Handled config e clocks (.get key)
      (CacheError.internal s!"value of '{key}' is not UTF-8").response
      (e.call (.get (keyOf key) clocks.now)).2
  | missing {key : String} : key ≠ "" →
    Content.live clocks.now (e.contents (keyOf key)) = none →
    Handled config e clocks (.get key) (CacheError.notFound key).response
      (e.call (.get (keyOf key) clocks.now)).2
  | getNoKey :
    Handled config e clocks (.get "") (CacheError.invalidKey "key cannot be empty").response e
  | deleted {key : String} {live : Bool} :
    Handled config e clocks (.delete key) (.ofMessage 200 (DeleteReply.mk key live))
      (e.call (.delete (keyOf key) clocks.now)).2
  | deleteNoKey :
    Handled config e clocks (.delete "") (CacheError.invalidKey "key cannot be empty").response e
  | cleared : Handled config e clocks .clear (.ofMessage 200 ({} : ClearReply)) (e.call .clear).2
  | stats : Handled config e clocks .stats (.ofMessage 200 (StatsReply.ofStats e.stats)) e
  | health : Handled config e clocks .health
    (.ofMessage 200 (HealthReply.healthy (Calendar.render clocks.moment))) e

variable {config : CacheConfig} {e : Engine} {clocks : Clocks}

theorem handled_set (h : e.Sound config) (clocks : Clocks) (request : SetRequest) :
    Handled config e clocks (.set request) (handle e clocks (.set request)).1
      (handle e clocks (.set request)).2 := by
  by_cases hkey : request.key = ""
  · have hproblem : request.problem? = some "Key cannot be empty" := by
      simp [SetRequest.problem?, hkey]
    simp only [handle, setValue, hproblem]
    exact .noKey hkey
  have hproblem : request.problem? = none := by simp [SetRequest.problem?, hkey]
  obtain ⟨events, hstep, -⟩ := (h.follows (write request clocks.now)).step
  simp only [handle, setValue, hproblem]
  cases hset : e.set (keyOf request.key) request.value.toUTF8 request.cost
      (request.ttl.map (· * nanosecondsPerSecond)) clocks.now with
  | error error =>
    have hcall : e.call (write request clocks.now) = (.failed error, e) := by
      simp only [write, Engine.call, hset]
    rw [hcall] at hstep
    generalize e.contents = m at hstep
    cases hstep with
    | emptyKey hempty => exact absurd (Option.some.inj hempty) (keyOf_ne_nil hkey)
    | tooLarge _ hlarge =>
      rw [effectiveCost_eq] at hlarge ⊢
      exact .tooLarge hkey hlarge
  | ok result =>
    obtain ⟨stored, f⟩ := result
    have hcall : e.call (write request clocks.now) = (.wrote stored, f) := by
      simp only [write, Engine.call, hset]
    have hfits : request.charge ≤ config.limit (keyOf request.key) := by
      rw [hcall] at hstep
      rw [← effectiveCost_eq]
      generalize f.contents = n at hstep
      cases hstep with
      | refused _ hfits => exact hfits
      | stored _ hfits => exact hfits
    have hwrote := Handled.wrote hkey hfits (congrArg Prod.fst hcall)
    rw [hcall] at hwrote
    exact hwrote

theorem handled_get (h : e.Sound config) (clocks : Clocks) (key : String) :
    Handled config e clocks (.get key) (handle e clocks (.get key)).1
      (handle e clocks (.get key)).2 := by
  by_cases hkey : key = ""
  · subst hkey
    have hget : e.get (keyOf "") clocks.now = .error (.invalidKey "key cannot be empty") := by
      rw [keyOf_empty]
      rfl
    simp only [handle, getValue, hget]
    exact .getNoKey
  obtain ⟨events, hstep, -⟩ := (h.follows (.get (keyOf key) clocks.now)).step
  have hfound : (e.call (.get (keyOf key) clocks.now)).1 =
      .found ((Content.live clocks.now (e.contents (keyOf key))).map (·.value)) := by
    generalize (e.call (.get (keyOf key) clocks.now)).1 = answer at hstep ⊢
    generalize (e.call (.get (keyOf key) clocks.now)).2.contents = n at hstep
    cases hstep with
    | emptyKey hempty => exact absurd (Option.some.inj hempty) (keyOf_ne_nil hkey)
    | found => rfl
  cases hget : e.get (keyOf key) clocks.now with
  | error error => simp [Engine.call, hget] at hfound
  | ok result =>
    obtain ⟨value, f⟩ := result
    have hcall : e.call (.get (keyOf key) clocks.now) = (.found value, f) := by
      simp only [Engine.call, hget]
    rw [hcall, EngineAnswer.found.injEq] at hfound
    simp only [handle, getValue, hget]
    cases hlive : Content.live clocks.now (e.contents (keyOf key)) with
    | none =>
      have hmissing : Handled config e clocks _ _ _ := .missing hkey hlive
      rw [hcall] at hmissing
      rw [hfound, hlive]
      exact hmissing
    | some content =>
      rw [hfound, hlive, Option.map_some]
      cases htext : String.fromUTF8? content.value with
      | none =>
        have hnot : Handled config e clocks _ _ _ := .notText hkey hlive htext
        rw [hcall] at hnot
        simp only [htext]
        exact hnot
      | some text =>
        have hfound : Handled config e clocks _ _ _ := .found hkey hlive htext
        rw [hcall] at hfound
        simp only [htext]
        exact hfound

theorem handled_delete (e : Engine) (clocks : Clocks) (key : String) :
    Handled config e clocks (.delete key) (handle e clocks (.delete key)).1
      (handle e clocks (.delete key)).2 := by
  by_cases hkey : key = ""
  · subst hkey
    have hdelete : e.delete (keyOf "") clocks.now = .error (.invalidKey "key cannot be empty") := by
      rw [keyOf_empty]
      rfl
    simp only [handle, deleteValue, hdelete]
    exact .deleteNoKey
  have hcheck := Engine.checkKey_of_ne (keyOf_ne_nil hkey)
  simp only [handle, deleteValue]
  cases hdelete : e.delete (keyOf key) clocks.now with
  | error error => simp [Engine.delete, hcheck, bind, Except.bind, pure, Except.pure] at hdelete
  | ok result =>
    obtain ⟨live, f⟩ := result
    have hcall : e.call (.delete (keyOf key) clocks.now) = (.deleted live, f) := by
      simp only [Engine.call, hdelete]
    have hdeleted : Handled config e clocks (.delete key)
        (.ofMessage 200 (DeleteReply.mk key live)) _ := .deleted
    rw [hcall] at hdeleted
    exact hdeleted

theorem handled (h : e.Sound config) (clocks : Clocks) (call : ApiCall) :
    ∃ response f, handle e clocks call = (response, f) ∧
      Handled config e clocks call response f := by
  refine ⟨_, _, rfl, ?_⟩
  cases call with
  | set request => exact handled_set h clocks request
  | get key => exact handled_get h clocks key
  | delete key => exact handled_delete e clocks key
  | clear => exact .cleared
  | stats => exact .stats
  | health => exact .health

end Api

end LfuCache
