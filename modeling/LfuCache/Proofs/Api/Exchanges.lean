import Mathlib
import LfuCache.Proofs.Api.Handlers

/-!
# Reading back over HTTP

A server takes one request after the other, and between them the worker moves on and sweeps
run. What it holds was put there by a request, so it is text, and nothing goes wrong inside. A
key that is read has the value that the last successful request for it has set, or none.
-/

namespace LfuCache.Api

open Http

/-! ## Runs -/

inductive ServerStep where
  | request (clocks : Clocks) (r : Request)
  | sweep (orders : Nat → SweepOrder) (now : Instant)
  /-- Queue, worker and sketch are in another state from here on. -/
  | learn (feed : Feed)

/-- Only requests are answered. -/
def serve (e : Engine) : ServerStep → Option Response × Engine
  | .request clocks r =>
    let (response, e) := respond e clocks r
    (some response, e)
  | .sweep orders now => (none, (e.cleanupIn orders now).2)
  | .learn feed => (none, { e with feed })

def served (e : Engine) (steps : List ServerStep) : Engine :=
  steps.foldl (fun e step => (serve e step).2) e

/-- The steps of a run and their responses. -/
def exchanges (e : Engine) : List ServerStep → List (ServerStep × Option Response)
  | [] => []
  | step :: steps => (step, (serve e step).1) :: exchanges (serve e step).2 steps

theorem served_concat (e : Engine) (steps : List ServerStep) (step : ServerStep) :
    served e (steps ++ [step]) = (serve (served e steps) step).2 := List.foldl_append

theorem exchanges_concat (e : Engine) (steps : List ServerStep) (step : ServerStep) :
    exchanges e (steps ++ [step]) =
      exchanges e steps ++ [(step, (serve (served e steps) step).1)] := by
  induction steps generalizing e with
  | nil => rfl
  | cons first steps ih =>
    simp only [List.cons_append, exchanges, ih]
    rfl

/-! ## The last request that set a key -/

/-- A request to set the key that was answered with 200. -/
def Puts (key : String) : ServerStep × Option Response → Prop
  | (.request _ r, some response) =>
    response.status = 200 ∧ ∃ request, decode r = .ok (.set request) ∧ request.key = key
  | _ => False

def SetRequest.content (config : CacheConfig) (request : SetRequest) (now : Instant) : Content :=
  .written config (keyOf request.key) request.value.toUTF8 request.cost
    (request.ttl.map (· * nanosecondsPerSecond)) now

/-- The last request that set the key was this one, and the content is what it asked for. -/
def LastPut (config : CacheConfig) (request : SetRequest) (content : Content)
    (log : List (ServerStep × Option Response)) : Prop :=
  ∃ before clocks r response later,
    log = before ++ (.request clocks r, some response) :: later ∧
      decode r = .ok (.set request) ∧ response.status = 200 ∧
      content = SetRequest.content config request clocks.now ∧
      ∀ entry ∈ later, ¬Puts request.key entry

variable {config : CacheConfig} {e : Engine} {log : List (ServerStep × Option Response)}
  {entry : ServerStep × Option Response} {clocks : Clocks} {r : Request} {response : Response}

theorem LastPut.concat {request : SetRequest} {content : Content}
    (h : LastPut config request content log) (hentry : ¬Puts request.key entry) :
    LastPut config request content (log ++ [entry]) := by
  obtain ⟨before, clocks, r, response, later, rfl, hdecode, hstatus, hcontent, hlater⟩ := h
  refine ⟨before, clocks, r, response, later ++ [entry], by simp, hdecode, hstatus, hcontent, ?_⟩
  intro other hother
  rw [List.mem_append, List.mem_singleton] at hother
  rcases hother with hother | rfl
  · exact hlater other hother
  · exact hentry

theorem not_puts_of_status (hstatus : response.status ≠ 200) (key : String) :
    ¬Puts key (.request clocks r, some response) := fun hputs => hstatus hputs.1

theorem not_puts_of_decode {call : ApiCall} (hdecode : decode r = .ok call)
    (hcall : ∀ request, call ≠ .set request) (key : String) :
    ¬Puts key (.request clocks r, some response) := by
  rintro ⟨-, request, hset, -⟩
  rw [hdecode] at hset
  exact hcall request (Except.ok.inj hset)

/-! ## What a server holds -/

/-- Everything that is held was put there by the last request that set its key. -/
structure Recorded (config : CacheConfig) (log : List (ServerStep × Option Response)) (e : Engine) :
    Prop where
  sound : e.Sound config
  held : ∀ key content, e.contents key = some content →
    ∃ request, keyOf request.key = key ∧ LastPut config request content log

namespace Recorded

theorem same (h : Recorded config log e) (hentry : ∀ key, ¬Puts key entry) :
    Recorded config (log ++ [entry]) e where
  sound := h.sound
  held key content hheld := by
    obtain ⟨request, hkey, hlast⟩ := h.held key content hheld
    exact ⟨request, hkey, hlast.concat (hentry request.key)⟩

theorem call (h : Recorded config log e) (call : EngineCall) (hentry : ∀ key, ¬Puts key entry)
    (hcall : ∀ key value cost ttl now, call ≠ .set key value cost ttl now) :
    Recorded config (log ++ [entry]) (e.call call).2 where
  sound := (h.sound.follows call).sound
  held key content hheld := by
    obtain ⟨events, hstep, -⟩ := (h.sound.follows call).step
    rcases hstep.holds_after hheld with ⟨hbefore, -⟩ | ⟨value, cost, ttl, now, hset, -⟩
    · exact (h.same hentry).held key content hbefore
    · exact absurd hset (hcall key value cost ttl now)

theorem write (h : Recorded config log e) {request : SetRequest} {stored : Bool}
    (hdecode : decode r = .ok (.set request)) (hstatus : response.status = 200)
    (hwrote : (e.call (write request clocks.now)).1 = .wrote stored) :
    Recorded config (log ++ [(.request clocks r, some response)])
      (e.call (Api.write request clocks.now)).2 where
  sound := (h.sound.follows _).sound
  held key content hheld := by
    obtain ⟨events, hstep, -⟩ := (h.sound.follows (Api.write request clocks.now)).step
    rcases hstep.holds_after hheld with ⟨hbefore, hsettles⟩ | ⟨value, cost, ttl, now, hset, -, rfl⟩
    · obtain ⟨earlier, rfl, hlast⟩ := h.held key content hbefore
      refine ⟨earlier, rfl, hlast.concat ?_⟩
      rintro ⟨-, other, hother, hkey⟩
      rw [hdecode] at hother
      obtain rfl := ApiCall.set.inj (Except.ok.inj hother)
      rw [hwrote] at hsettles
      exact hsettles (congrArg keyOf hkey)
    · rw [Api.write, EngineCall.set.injEq] at hset
      obtain ⟨rfl, rfl, rfl, rfl, rfl⟩ := hset
      exact ⟨request, rfl, log, clocks, r, response, [], rfl, hdecode, hstatus, rfl, by simp⟩

theorem request (h : Recorded config log e) (clocks : Clocks) (r : Request) :
    Recorded config (log ++ [(.request clocks r, some (respond e clocks r).1)])
      (respond e clocks r).2 := by
  rw [respond_eq]
  cases hdecode : decode r with
  | error response =>
    apply h.same
    rintro key ⟨-, request, hset, -⟩
    rw [hdecode] at hset
    exact absurd hset (by simp)
  | ok call =>
    obtain ⟨response, f, hhandle, hhandled⟩ := handled h.sound clocks call
    simp only [hhandle]
    cases hhandled with
    | noKey | tooLarge =>
      exact h.same (not_puts_of_status (by simp [CacheError.status]))
    | wrote _ _ hwrote => exact h.write hdecode (by simp) hwrote
    | found | notText | missing =>
      exact h.call _ (not_puts_of_decode hdecode (by simp)) (by simp)
    | deleted => exact h.call _ (not_puts_of_decode hdecode (by simp)) (by simp)
    | cleared => exact h.call _ (not_puts_of_decode hdecode (by simp)) (by simp)
    | getNoKey | deleteNoKey | stats | health =>
      exact h.same (not_puts_of_decode hdecode (by simp))

theorem step (h : Recorded config log e) (step : ServerStep) :
    Recorded config (log ++ [(step, (serve e step).1)]) (serve e step).2 := by
  cases step with
  | request clocks r => exact h.request clocks r
  | sweep orders now => exact h.call (.cleanup orders now) (fun _ => id) (by simp)
  | learn feed => exact h.call (.learn feed) (fun _ => id) (by simp)

theorem run (h : Recorded config [] e) (steps : List ServerStep) :
    Recorded config (exchanges e steps) (served e steps) := by
  induction steps using List.reverseRecOn with
  | nil => exact h
  | append_singleton steps step ih =>
    rw [served_concat, exchanges_concat]
    exact ih.step step

theorem text (h : Recorded config log e) {key : Key} {content : Content}
    (hheld : e.contents key = some content) :
    ∃ name value : String, key = keyOf name ∧ content.value = value.toUTF8 := by
  obtain ⟨request, hkey, before, clocks, r, response, later, -, -, -, rfl, -⟩ :=
    h.held key content hheld
  exact ⟨request.key, request.value, hkey.symm, rfl⟩

theorem status_ne_500 (h : Recorded config log e) (clocks : Clocks) (r : Request) :
    (respond e clocks r).1.status ≠ 500 := by
  rw [respond_eq]
  cases hdecode : decode r with
  | error response =>
    rw [status_present]
    exact status_of_decode_error hdecode
  | ok call =>
    obtain ⟨response, f, hhandle, hhandled⟩ := handled h.sound clocks call
    simp only [hhandle, status_present]
    cases hhandled with
    | notText _ hlive hnot =>
      -- The value is text, whatever was written over it or evicted since.
      obtain ⟨name, value, -, htext⟩ := h.text (Content.eq_some_of_live hlive)
      rw [htext, Text.fromUTF8?_toUTF8] at hnot
      exact absurd hnot (by simp)
    | _ => simp [CacheError.status]

theorem status_put (h : Recorded config log e) (clocks : Clocks) {request : SetRequest}
    (hdecode : decode r = .ok (.set request)) :
    (respond e clocks r).1.status =
      if request.key = "" then 400
      else if config.limit (keyOf request.key) < request.charge then 413
      else 200 := by
  obtain ⟨response, f, hhandle, hhandled⟩ := handled h.sound clocks (.set request)
  simp only [respond_eq, hdecode, hhandle, status_present]
  cases hhandled with
  | noKey hkey => rw [if_pos hkey, status_error, CacheError.status]
  | tooLarge hkey hlarge => rw [if_neg hkey, if_pos hlarge, status_error, CacheError.status]
  | wrote hkey hfits => rw [if_neg hkey, if_neg hfits.not_gt, status_ofMessage]

theorem get_live (h : Recorded config log e) (clocks : Clocks) {key : String} {content : Content}
    (hdecode : decode r = .ok (.get key))
    (hlive : Content.live clocks.now (e.contents (keyOf key)) = some content) :
    ∃ request, request.key = key ∧ LastPut config request content log ∧
      (respond e clocks r).1 = present r (.ofMessage 200 (ValueReply.mk key request.value)) := by
  obtain ⟨request, hkey, hlast⟩ := h.held _ content (Content.eq_some_of_live hlive)
  have hvalue : String.fromUTF8? content.value = some request.value := by
    obtain ⟨before, clocks, r, response, later, -, -, -, rfl, -⟩ := hlast
    exact Text.fromUTF8?_toUTF8 request.value
  refine ⟨request, keyOf_injective hkey, hlast, ?_⟩
  obtain ⟨response, f, hhandle, hhandled⟩ := handled h.sound clocks (.get key)
  simp only [respond_eq, hdecode, hhandle]
  cases hhandled with
  | found _ hother htext =>
    rw [hlive, Option.some_inj] at hother
    rw [← hother, hvalue, Option.some_inj] at htext
    rw [htext]
  | notText _ hother hnot =>
    rw [hlive, Option.some_inj] at hother
    rw [← hother, hvalue] at hnot
    exact absurd hnot (by simp)
  | missing _ hnone =>
    rw [hlive] at hnone
    exact absurd hnone (by simp)
  | getNoKey => exact absurd rfl (key_ne_empty hdecode)

theorem get_missing (h : Recorded config log e) (clocks : Clocks) {key : String}
    (hdecode : decode r = .ok (.get key))
    (hnone : Content.live clocks.now (e.contents (keyOf key)) = none) :
    (respond e clocks r).1.status = 404 := by
  obtain ⟨response, f, hhandle, hhandled⟩ := handled h.sound clocks (.get key)
  simp only [respond_eq, hdecode, hhandle, status_present]
  cases hhandled with
  | missing => rw [status_error, CacheError.status]
  | found _ hlive =>
    rw [hnone] at hlive
    exact absurd hlive (by simp)
  | notText _ hlive =>
    rw [hnone] at hlive
    exact absurd hlive (by simp)
  | getNoKey => exact absurd rfl (key_ne_empty hdecode)

end Recorded

/-! ## A new cache -/

/-- How a server answers whose cache is `e` and whose exchanges so far are `log`. -/
structure ReadsBack (config : CacheConfig) (log : List (ServerStep × Option Response))
    (e : Engine) : Prop where
  text : ∀ key content, e.contents key = some content →
    ∃ name value : String, key = keyOf name ∧ content.value = value.toUTF8
  never_internal : ∀ clocks r, (respond e clocks r).1.status ≠ 500
  put : ∀ clocks r request, decode r = .ok (.set request) →
    (respond e clocks r).1.status =
      if request.key = "" then 400
      else if config.limit (keyOf request.key) < request.charge then 413
      else 200
  /-- A live entry is what the last successful request for its key has set. -/
  get_live : ∀ clocks r key content, decode r = .ok (.get key) →
    Content.live clocks.now (e.contents (keyOf key)) = some content →
      ∃ request, request.key = key ∧ LastPut config request content log ∧
        (respond e clocks r).1 = present r (.ofMessage 200 (ValueReply.mk key request.value))
  get_missing : ∀ clocks r key, decode r = .ok (.get key) →
    Content.live clocks.now (e.contents (keyOf key)) = none → (respond e clocks r).1.status = 404
  /-- A request that reaches no handler changes nothing. -/
  unread : ∀ clocks r response, decode r = .error response →
    respond e clocks r = (present r response, e)

end LfuCache.Api
