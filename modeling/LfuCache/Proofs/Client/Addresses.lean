import Mathlib
import LfuCache.Api.Route
import LfuCache.Client.Remote
import LfuCache.Proofs.Json.Records
import LfuCache.Proofs.Net.Segments

/-!
# The address of a key

A read and a deletion name their key in the last segment of a URL, and a write names it in its
body.
-/

namespace LfuCache.Client

open Api Net Text

/-- The two calls that name their key in the URL. -/
inductive KeyCall where
  | get
  | delete
deriving DecidableEq, Repr

namespace KeyCall

/-- The segment that stands before the key. -/
def word : KeyCall → String
  | get => "get"
  | delete => "del"

def route : KeyCall → List UInt8 → Route
  | get => .get
  | delete => .delete

theorem bytes_word (call : KeyCall) :
    bytes call.word = if call = get then [0x67, 0x65, 0x74] else [0x64, 0x65, 0x6C] := by
  cases call with
  | get => rw [word, bytes_eq]; decide
  | delete => rw [word, bytes_eq]; decide

theorem addressable_word (call : KeyCall) : Url.Addressable call.word := by
  cases call <;> simp [Url.Addressable, word]

theorem encode_word (call : KeyCall) (scheme : List UInt8) :
    Percent.encode (Url.segmentSafe scheme) (bytes call.word) = bytes call.word := by
  have halpha : ∀ b ∈ bytes call.word, isAlpha b = true := by
    rw [bytes_word]
    cases call <;> simp [isAlpha]
  exact Percent.encode_of_safe fun b hb => Url.segmentSafe_of_isAlpha scheme (halpha b hb)

end KeyCall

/-- A path without an empty segment at its end. -/
def stem (path : List (List UInt8)) : List (List UInt8) :=
  if path.getLast? = some [] then path.dropLast else path

/-- The URL lies below the base by the word of the call and one segment more, and the server
finds the key in that segment. -/
def Names (base : Url) (call : KeyCall) (key : String) (url : Url) : Prop :=
  ∃ segment, url = { base with segments := stem base.segments ++ [bytes call.word, segment] } ∧
    Route.isSegment segment = true ∧
    Route.ofPath? (Url.writePath [bytes call.word, segment]) = some (call.route segment) ∧
    Route.key? segment = some key

/-! ## Routes -/

theorem key?_eq_some_iff {segment : List UInt8} {key : String} :
    Route.key? segment = some key ↔ Percent.decode segment = bytes key := string?_eq_some_iff

theorem fixed?_eq_none (call : KeyCall) (segment : List UInt8) :
    Route.fixed? (Url.writePath [bytes call.word, segment]) = none := by
  have hother : ∀ s ∈ ["/set", "/clear", "/stats", "/health"],
      string? (Url.writePath [bytes call.word, segment]) ≠ some s := by
    intro s hs hsame
    rw [string?_eq_some_iff, call.bytes_word, bytes_eq] at hsame
    cases call <;> fin_cases hs <;> simp [Url.writePath, String.utf8EncodeChar] at hsame
  unfold Route.fixed?
  split <;> simp_all

theorem segmentAfter?_append (start : String) {segment : List UInt8}
    (h : Route.isSegment segment = true) :
    Route.segmentAfter? start (bytes start ++ segment) = some segment := by
  simp [Route.segmentAfter?, Route.after?, h]

theorem ofPath?_segment (call : KeyCall) {segment : List UInt8}
    (h : Route.isSegment segment = true) :
    Route.ofPath? (Url.writePath [bytes call.word, segment]) = some (call.route segment) := by
  have hpath : Url.writePath [bytes call.word, segment] =
      bytes ("/" ++ call.word ++ "/") ++ segment := by
    simp [Url.writePath, bytes_eq, String.utf8EncodeChar]
  unfold Route.ofPath?
  rw [fixed?_eq_none, hpath]
  cases call with
  | get =>
    have hget : "/" ++ KeyCall.get.word ++ "/" = "/get/" := by decide
    simp only [hget, segmentAfter?_append "/get/" h]
    rfl
  | delete =>
    have hdel : "/" ++ KeyCall.delete.word ++ "/" = "/del/" := by decide
    have hget : Route.segmentAfter? "/get/" (bytes "/del/" ++ segment) = none := by
      simp [Route.segmentAfter?, Route.after?, bytes_eq, String.utf8EncodeChar]
    simp only [hdel, hget, segmentAfter?_append "/del/" h]
    rfl

/-! ## Built URLs -/

variable {base : Url} {call : KeyCall} {key : String}

/-- The base with the word of a call below it. -/
def below (base : Url) (call : KeyCall) : Url :=
  { base with segments := base.popIfEmpty.front ++ [bytes call.word] }

theorem extend_eq (hfile : Url.isFile base.scheme = false) (call : KeyCall) (key : String) :
    base.extend [call.word, key] = (below base call).push key := by
  have hpop : base.popIfEmpty = { base with segments := base.popIfEmpty.segments } := by
    unfold Url.popIfEmpty
    split <;> rfl
  have hfile' : Url.isFile base.popIfEmpty.scheme = false := by
    rw [hpop]
    exact hfile
  simp only [Url.extend, List.foldl_cons, List.foldl_nil]
  rw [Url.push_of_addressable hfile' call.addressable_word, call.encode_word, below, hpop]

theorem front_below (base : Url) (call : KeyCall) :
    (below base call).front = (below base call).segments := by
  apply if_neg
  intro heq
  have hlast := congrArg List.getLast? heq
  rw [below, List.getLast?_append, call.bytes_word] at hlast
  cases call <;> simp at hlast

theorem extend_of_addressable (hfile : Url.isFile base.scheme = false)
    (hkey : Url.Addressable key) (call : KeyCall) :
    base.extend [call.word, key] = { base with
      segments := base.popIfEmpty.front ++
        [bytes call.word, Percent.encode (Url.segmentSafe base.scheme) (bytes key)] } := by
  rw [extend_eq hfile, Url.push_of_addressable (u := below base call) hfile hkey, front_below]
  simp [below]

/-- A base is built on at its path without the empty end, but two slashes count as one. -/
theorem front_popIfEmpty_eq_stem_iff :
    base.popIfEmpty.front = stem base.segments ↔ base.segments ≠ [[], []] := by
  by_cases hlast : base.segments.getLast? = some []
  · obtain ⟨path, hpath⟩ := List.getLast?_eq_some_iff.mp hlast
    have hpop : base.popIfEmpty.segments = if path = [] then [[]] else path := by
      cases path with
      | nil => simp [Url.popIfEmpty, hpath]
      | cons first rest =>
        rw [Url.popIfEmpty, if_pos (by rw [hlast]; simp [hpath]), hpath, List.dropLast_concat,
          if_neg (by simp)]
    rw [Url.front, hpop, stem, if_pos hlast, hpath, List.dropLast_concat]
    cases path with
    | nil => simp
    | cons first rest => cases rest <;> simp
  · have hne : ∀ path, base.segments ≠ path ++ [[]] := by
      intro path heq
      simp [heq] at hlast
    have hslash : base.segments ≠ [[]] := hne []
    have hpop : base.popIfEmpty = base := if_neg (by simp [hlast])
    rw [hpop, Url.front, if_neg hslash, stem, if_neg hlast]
    exact iff_of_true rfl (hne [[]])

/-! ## Calls that go out -/

def KeyCall.method : KeyCall → Http.Method
  | get => .get
  | delete => .delete

/-- What goes out to name a key. -/
def KeyCall.sent (call : KeyCall) (base : Url) (key : String) : Call :=
  .to (base.extend [call.word, key]) call.method none

/-- A network that keeps the calls it is given. What it answers may hang on those before. -/
def Network.logging (answers : List Call → Call → Delivery) : Network (StateM (List Call)) where
  deliver call := modifyGet fun log => (answers log call, log ++ [call])
  pause _ := return ()

/-- The call can be sent, and no answer to it sends the client elsewhere. -/
structure Steady (answers : List Call → Call → Delivery) (out : Call) : Prop where
  sendable : out.obstacle? = none
  stays : ∀ log answer, answers log out = .answered answer → answer.next? out = none

/-- This call goes out, once at least and no more often than this, and no other one does. -/
def Sends {α : Type} (x : StateM (List Call) α) (out : Call) (most : Nat) : Prop :=
  ∀ log, ∃ tries, 0 < tries ∧ tries ≤ most ∧ (x.run log).2 = log ++ List.replicate tries out

section

variable {answers : List Call → Call → Delivery} {out : Call} {most : Nat}

theorem Sends.bind {α β : Type} {x : StateM (List Call) α} {f : α → StateM (List Call) β}
    (h : Sends x out most) (hrest : ∀ a log, ((f a).run log).2 = log) :
    Sends (x >>= f) out most := by
  intro log
  obtain ⟨tries, hpos, hle, hlog⟩ := h log
  exact ⟨tries, hpos, hle, (hrest _ _).trans hlog⟩

theorem follow_logging (h : Steady answers out) (left : Nat) (log : List Call) :
    ((Network.logging answers).follow left out).run log =
      pure (answers log out, log ++ [out]) := by
  have hsend : ((Network.logging answers).send out).run log =
      pure (answers log out, log ++ [out]) := by
    rw [Network.send, h.sendable]
    rfl
  rw [Network.follow, StateT.run_bind, hsend, pure_bind]
  cases hanswer : answers log out with
  | answered answer => simp [h.stays log answer hanswer]
  | unreachable causes => rfl
  | broken causes => rfl

theorem sends_attempt (h : Steady answers out) (r : Remote) (left made : Nat) :
    Sends (r.attempt (.logging answers) out left made) out (left + 1) := by
  induction left generalizing made with
  | zero =>
    intro log
    refine ⟨1, by omega, by omega, ?_⟩
    rw [Remote.attempt, StateT.run_bind, follow_logging h, pure_bind]
    cases answers log out <;> rfl
  | succ left ih =>
    intro log
    rw [Remote.attempt, StateT.run_bind, follow_logging h, pure_bind]
    cases answers log out with
    | answered answer => exact ⟨1, by omega, by omega, rfl⟩
    | broken causes => exact ⟨1, by omega, by omega, rfl⟩
    | unreachable causes =>
      obtain ⟨tries, hpos, hle, hlog⟩ := ih (made + 1) (log ++ [out])
      refine ⟨tries + 1, by omega, by omega, ?_⟩
      rw [List.append_assoc, List.singleton_append, ← List.replicate_succ] at hlog
      exact hlog

variable {r : Remote} {key : String}

theorem sends_get (h : Steady answers (KeyCall.get.sent r.base key)) :
    Sends (r.get (.logging answers) key) (KeyCall.get.sent r.base key) (r.retries + 1) := by
  apply (sends_attempt h r r.retries 0).bind
  intro result log
  cases result with
  | error e => rfl
  | ok answer => simp only; split <;> rfl

theorem sends_delete (h : Steady answers (KeyCall.delete.sent r.base key)) :
    Sends (r.delete (.logging answers) key) (KeyCall.delete.sent r.base key) (r.retries + 1) :=
  (sends_attempt h r r.retries 0).bind fun _ _ => rfl

/-- Nobody is reached, so there are four attempts. -/
example :
    let r : Remote := { base := ⟨bytes "http", some ⟨[], [], .address (.v4 #v[127, 0, 0, 1]), none⟩,
      false, [[]], none, none⟩ }
    ((r.get (.logging fun _ _ => .unreachable []) "a").run []).2.map (·.url) =
      List.replicate 4 (r.base.extend ["get", "a"]) := by
  decide +kernel

end

/-! ## Addresses -/

theorem isSegment_encode (scheme : List UInt8) (hkey : key ≠ "") :
    Route.isSegment (Percent.encode (Url.segmentSafe scheme) (bytes key)) = true := by
  have hbytes : bytes key ≠ [] := by
    intro hnil
    exact hkey (bytes_injective (hnil.trans (by simp [bytes_eq])))
  have hne : Percent.encode (Url.segmentSafe scheme) (bytes key) ≠ [] :=
    Percent.encode_ne_nil hbytes
  have hslash := Percent.slash_notMem_encode (Url.segmentSafe_slash scheme) (bytes key)
  simp [Route.isSegment, hne, hslash]

theorem addressable_of_names (hfile : Url.isFile base.scheme = false)
    (h : Names base call key (base.extend [call.word, key])) : Url.Addressable key := by
  obtain ⟨segment, hurl, hsegment, -, hkey⟩ := h
  rw [key?_eq_some_iff] at hkey
  have hlast : ((below base call).push key).segments.getLast? = some segment := by
    rw [← extend_eq hfile, hurl]
    simp
  by_cases hsteps : key = "." ∨ key = ".."
  · -- Dots add nothing, so the last segment is the word of the call.
    have hsame : (below base call).push key = below base call :=
      if_pos (by simpa using hsteps)
    rw [hsame, below, List.getLast?_concat, Option.some.injEq] at hlast
    rw [← hlast, ← call.encode_word base.scheme,
      Percent.decode_encode (Url.segmentSafe_percent _)] at hkey
    rw [← bytes_injective hkey]
    exact call.addressable_word
  · rw [not_or] at hsteps
    refine ⟨hsteps.1, hsteps.2, ?_⟩
    rw [← Url.keptOf_eq_iff]
    by_contra hlost
    obtain ⟨path, last, hpath, hend⟩ :=
      Url.push_of_lost (u := below base call) hfile hsteps.1 hsteps.2 hlost
    rw [hpath, List.getLast?_concat, Option.some.injEq] at hlast
    subst hlast
    rcases hend with rfl | hother
    · simp [Route.isSegment] at hsegment
    · exact hother hkey

theorem names_iff (hfile : Url.isFile base.scheme = false) (call : KeyCall) (hkey : key ≠ "") :
    Names base call key (base.extend [call.word, key]) ↔
      Url.Addressable key ∧ base.segments ≠ [[], []] := by
  constructor
  · intro h
    have haddressable := addressable_of_names hfile h
    refine ⟨haddressable, front_popIfEmpty_eq_stem_iff.mp ?_⟩
    obtain ⟨segment, hurl, -⟩ := h
    rw [extend_of_addressable hfile haddressable] at hurl
    have hpath := congrArg Url.segments hurl
    exact (List.append_inj' hpath rfl).1
  · rintro ⟨haddressable, hbase⟩
    have hsegment := isSegment_encode base.scheme hkey
    refine ⟨_, ?_, hsegment, ofPath?_segment call hsegment, ?_⟩
    · rw [extend_of_addressable hfile haddressable, front_popIfEmpty_eq_stem_iff.mpr hbase]
    · rw [key?_eq_some_iff, Percent.decode_encode (Url.segmentSafe_percent _)]

theorem write_injective (hfile : Url.isFile base.scheme = false) (call : KeyCall) {other : String}
    (hkey : Url.Addressable key) (hother : Url.Addressable other)
    (h : (base.extend [call.word, key]).write = (base.extend [call.word, other]).write) :
    key = other := by
  rw [extend_of_addressable hfile hkey, extend_of_addressable hfile hother] at h
  have hsegment : Percent.encode (Url.segmentSafe base.scheme) (bytes key) =
      Percent.encode (Url.segmentSafe base.scheme) (bytes other) := by
    simpa [Url.write, Url.path, Url.writePath] using h
  have hbytes := congrArg Percent.decode hsegment
  rw [Percent.decode_encode (Url.segmentSafe_percent _),
    Percent.decode_encode (Url.segmentSafe_percent _)] at hbytes
  exact bytes_injective hbytes

theorem isFile_http : Url.isFile (bytes "http") = false := by
  rw [Url.isFile, bytes_eq, bytes_eq]
  decide

/-- A read or a deletion names its key in the URL, below the path of the base, exactly if the key
can be addressed and that path is not two slashes. Such keys have different URLs. A write names
every key in its body, which is read as it was written. -/
theorem key_named_in_url_iff {r : Remote} (hfile : Url.isFile r.base.scheme = false)
    (call : KeyCall) {key : String} (hkey : key ≠ "") :
    (Names r.base call key (r.base.extend [call.word, key]) ↔
      Url.Addressable key ∧ r.base.segments ≠ [[], []]) ∧
    (∀ other, Url.Addressable key → Url.Addressable other → key ≠ other →
      (r.base.extend [call.word, key]).write ≠ (r.base.extend [call.word, other]).write) ∧
    ∀ value cost ttl, (∀ n ∈ cost, n < UInt64.size) → (∀ n ∈ ttl, n < UInt64.size) →
      Message.readFront SetRequest (bytes (Message.write (⟨key, value, cost, ttl⟩ : SetRequest))) =
        .ok ⟨key, value, cost, ttl⟩ := by
  refine ⟨names_iff hfile call hkey, ?_, ?_⟩
  · intro other haddressable hother hne hsame
    exact hne (write_injective hfile call haddressable hother hsame)
  · intro value cost ttl hcost httl
    have hread := SetRequest.readFront_write ⟨key, value, cost, ttl⟩ hcost httl []
    rwa [List.append_nil] at hread

/-- A key with a slash, a percent sign and a question mark, below a base with a path. -/
theorem key_named_in_url_iff_for_reserved_characters :
    let r : Remote := { base := ⟨bytes "http", some ⟨[], [], .address (.v4 #v[127, 0, 0, 1]), none⟩,
      false, [bytes "cache", []], none, none⟩ }
    Url.isFile r.base.scheme = false ∧ "a/b%?" ≠ "" ∧
      (Names r.base .delete "a/b%?" (r.base.extend ["del", "a/b%?"]) ↔
        Url.Addressable "a/b%?" ∧ r.base.segments ≠ [[], []]) ∧
      (∀ other, Url.Addressable "a/b%?" → Url.Addressable other → "a/b%?" ≠ other →
        (r.base.extend ["del", "a/b%?"]).write ≠ (r.base.extend ["del", other]).write) ∧
      ∀ value cost ttl, (∀ n ∈ cost, n < UInt64.size) → (∀ n ∈ ttl, n < UInt64.size) →
        Message.readFront SetRequest
            (bytes (Message.write (⟨"a/b%?", value, cost, ttl⟩ : SetRequest))) =
          .ok ⟨"a/b%?", value, cost, ttl⟩ :=
  ⟨isFile_http, by decide, key_named_in_url_iff isFile_http .delete (by decide)⟩

/-- A tab is lost, so the key is read as another one. Two dots lead back to the base. -/
theorem key_with_tab_has_url_of_another :
    let base : Url := ⟨bytes "http", some ⟨[], [], .address (.v4 #v[127, 0, 0, 1]), some 1⟩, false,
      [[]], none, none⟩
    base.extend ["get", "a\tb"] = base.extend ["get", "ab"] ∧
      ¬Names base .get "a\tb" (base.extend ["get", "a\tb"]) ∧
      ¬Names base .get ".." (base.extend ["get", ".."]) := by
  intro base
  have hfile : Url.isFile base.scheme = false := isFile_http
  have hkept : Url.keptOf "a\tb" = Url.keptOf "ab" := by
    rw [Url.keptOf, Url.keptOf, bytes_eq, bytes_eq]
    decide
  refine ⟨?_, ?_, ?_⟩
  · have htab := extend_eq hfile .get "a\tb"
    have hplain := extend_eq hfile .get "ab"
    rw [Url.push_eq (u := below base .get) hfile (by decide) (by decide)] at htab hplain
    rw [hkept] at htab
    exact htab.trans hplain.symm
  · intro hnames
    exact absurd (addressable_of_names hfile hnames) (by simp [Url.Addressable])
  · intro hnames
    exact absurd (addressable_of_names hfile hnames) (by simp [Url.Addressable])

end LfuCache.Client
