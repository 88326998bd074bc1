import Mathlib
import LfuCache.Api.Server
import LfuCache.Proofs.Engine.LastWrite
import LfuCache.Proofs.Text.Bytes
import LfuCache.Proofs.Text.Percent

/-!
# Requests

A request is a call of a handler, or it is turned away without a look at the cache and never
with an internal error. A key that comes with a path is not empty.
-/

namespace LfuCache.Api

open Http

/-! ## What a request asks for -/

inductive ApiCall where
  | set (request : SetRequest)
  | get (key : String)
  | delete (key : String)
  | clear
  | stats
  | health
deriving DecidableEq

/-- The call of a request whose method is right, or the response to one that cannot be read. -/
def Route.read (r : Request) : Route → Except Response ApiCall
  | .set => (readSetRequest r).map .set
  | .get segment => (Route.key? segment).elim (.error notText) fun key => .ok (.get key)
  | .delete segment => (Route.key? segment).elim (.error notText) fun key => .ok (.delete key)
  | .clear => .ok .clear
  | .stats => .ok .stats
  | .health => .ok .health

def decode (r : Request) : Except Response ApiCall :=
  let route := Route.ofPath? r.target.path
  if r.method = .options then .error (permission route)
  else match route with
    | none => .error ⟨404, [], .empty⟩
    | some route =>
      if route.allows r.method then route.read r else .error ⟨405, allowed route, .empty⟩

def handle (e : Engine) (clocks : Clocks) : ApiCall → Response × Engine
  | .set request =>
    let (result, e) := setValue e request clocks.now
    (reply result, e)
  | .get key =>
    let (result, e) := getValue e key clocks.now
    (reply result, e)
  | .delete key =>
    let (result, e) := deleteValue e key clocks.now
    (reply result, e)
  | .clear => (.ofMessage 200 ({} : ClearReply), e.clear)
  | .stats => (.ofMessage 200 (StatsReply.ofStats e.stats), e)
  | .health => (.ofMessage 200 (HealthReply.healthy (Calendar.render clocks.moment)), e)

/-- A response as it is sent. -/
def present (r : Request) (response : Response) : Response :=
  { withoutBody r response with
    headers := (withoutBody r response).headers ++ [varyHeader, originHeader] }

@[simp]
theorem status_present (r : Request) (response : Response) :
    (present r response).status = response.status := by
  unfold present withoutBody
  split <;> rfl

@[simp]
theorem status_error (error : CacheError) : error.response.status = error.status := rfl

@[simp]
theorem status_ofMessage {α : Type} [Message α] (status : Nat) (message : α) :
    (Response.ofMessage status message).status = status := rfl

theorem run_eq (e : Engine) (clocks : Clocks) (r : Request) (route : Route) :
    run e clocks r route = match route.read r with
      | .ok call => handle e clocks call
      | .error response => (response, e) := by
  cases route with
  | set =>
    simp only [run, Route.read]
    cases readSetRequest r <;> rfl
  | get segment =>
    simp only [run, Route.read]
    cases Route.key? segment <;> rfl
  | delete segment =>
    simp only [run, Route.read]
    cases Route.key? segment <;> rfl
  | clear => rfl
  | stats => rfl
  | health => rfl

theorem respond_eq (e : Engine) (clocks : Clocks) (r : Request) :
    respond e clocks r = match decode r with
      | .ok call => (present r (handle e clocks call).1, (handle e clocks call).2)
      | .error response => (present r response, e) := by
  have hempty : ∀ status headers, withoutBody r ⟨status, headers, .empty⟩ =
      ⟨status, headers, .empty⟩ := by
    intro status headers
    unfold withoutBody
    split <;> rfl
  by_cases hoptions : r.method = .options
  · have hbody : ∀ response, withoutBody r response = response := by
      intro response
      rw [withoutBody, hoptions, if_neg (by decide)]
    simp only [respond, decode, if_pos hoptions, present, hbody]
  simp only [respond, decode, if_neg hoptions]
  cases hroute : Route.ofPath? r.target.path with
  | none => simp only [respondTo, present, hempty]
  | some route =>
    by_cases hallows : route.allows r.method = true
    · simp only [respondTo, if_pos hallows, run_eq]
      cases route.read r <;> rfl
    · simp only [respondTo, if_neg hallows, present, hempty]

theorem status_of_unread {r : Request} {route : Route} {response : Response}
    (h : route.read r = .error response) : response.status ≠ 500 := by
  have hsegment : ∀ segment (call : String → ApiCall),
      (Route.key? segment).elim (Except.error notText) (fun key => .ok (call key)) =
        .error response → response.status ≠ 500 := by
    intro segment call hread
    cases hkey : Route.key? segment with
    | none =>
      rw [hkey, Option.elim_none, Except.error.injEq] at hread
      subst hread
      decide
    | some key => simp [hkey] at hread
  cases route with
  | set =>
    simp only [Route.read, readSetRequest] at h
    split at h
    · obtain rfl := Except.error.inj h
      decide
    · split at h
      · obtain rfl := Except.error.inj h
        decide
      · split at h
        · exact absurd h (by simp [Except.map])
        · rename_i fault _
          obtain rfl := Except.error.inj h
          cases fault <;> decide
  | get segment => exact hsegment segment .get h
  | delete segment => exact hsegment segment .delete h
  | clear => exact absurd h (by simp [Route.read])
  | stats => exact absurd h (by simp [Route.read])
  | health => exact absurd h (by simp [Route.read])

theorem status_of_decode_error {r : Request} {response : Response}
    (h : decode r = .error response) : response.status ≠ 500 := by
  simp only [decode] at h
  split at h
  · obtain rfl := Except.error.inj h
    exact (by decide : 200 ≠ 500)
  · split at h
    · obtain rfl := Except.error.inj h
      decide
    · split at h
      · exact status_of_unread h
      · obtain rfl := Except.error.inj h
        exact (by decide : 405 ≠ 500)

/-! ## Keys -/

theorem keyOf_injective : Function.Injective keyOf := Text.bytes_injective

theorem keyOf_empty : keyOf "" = [] := by
  rw [keyOf, Text.bytes, Text.toList_eq]
  rfl

theorem keyOf_ne_nil {key : String} (hkey : key ≠ "") : keyOf key ≠ [] := fun hnil =>
  hkey (keyOf_injective (hnil.trans keyOf_empty.symm))

theorem segment_ne_nil {path segment : List UInt8} (h : Route.ofPath? path = some (.get segment)) :
    segment ≠ [] := by
  have hafter : ∀ start, Route.segmentAfter? start path = some segment → segment ≠ [] := by
    intro start hsegment
    have hfilter := (Option.filter_eq_some_iff.mp hsegment).2
    rintro rfl
    simp [Route.isSegment] at hfilter
  unfold Route.ofPath? at h
  cases hfixed : Route.fixed? path with
  | some route =>
    rw [hfixed] at h
    unfold Route.fixed? at hfixed
    split at hfixed <;> simp_all
  | none =>
    rw [hfixed] at h
    cases hget : Route.segmentAfter? "/get/" path with
    | some found =>
      simp only [hget, Option.some.injEq, Route.get.injEq] at h
      exact hafter "/get/" (h ▸ hget)
    | none => simp [hget] at h

theorem route_of_decode {r : Request} {call : ApiCall} (h : decode r = .ok call) :
    ∃ route, Route.ofPath? r.target.path = some route ∧ route.read r = .ok call := by
  simp only [decode] at h
  split at h
  · exact absurd h (by simp)
  · split at h
    · exact absurd h (by simp)
    · split at h
      · exact ⟨_, ‹_›, h⟩
      · exact absurd h (by simp)

theorem route_of_read_get {r : Request} {route : Route} {key : String}
    (h : route.read r = .ok (.get key)) :
    ∃ segment, route = .get segment ∧ Route.key? segment = some key := by
  cases route with
  | get segment =>
    simp only [Route.read] at h
    cases hkey : Route.key? segment with
    | none => simp [hkey] at h
    | some found =>
      simp only [hkey, Option.elim_some, Except.ok.injEq, ApiCall.get.injEq] at h
      exact ⟨segment, rfl, h ▸ hkey⟩
  | set =>
    simp only [Route.read] at h
    cases hread : readSetRequest r <;> simp [hread, Except.map] at h
  | delete segment =>
    simp only [Route.read] at h
    cases hkey : Route.key? segment <;> simp [hkey] at h
  | clear => simp [Route.read] at h
  | stats => simp [Route.read] at h
  | health => simp [Route.read] at h

theorem key_ne_empty {r : Request} {key : String} (h : decode r = .ok (.get key)) : key ≠ "" := by
  obtain ⟨route, hroute, hread⟩ := route_of_decode h
  obtain ⟨segment, rfl, hkey⟩ := route_of_read_get hread
  rintro rfl
  exact Text.string?_ne_empty (Text.Percent.decode_ne_nil (segment_ne_nil hroute)) hkey

end LfuCache.Api
