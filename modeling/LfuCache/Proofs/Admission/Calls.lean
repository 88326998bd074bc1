import Mathlib
import LfuCache.Proofs.Admission

/-!
# What the sampler is asked

A sampler that writes down its calls gives the same answers, so a decision can be told from
its calls. Each call names the keys that are chosen by then, and a round is won against the
first of the least frequent victims that the sampler offers.
-/

namespace LfuCache.Admission

variable {frequency : UInt64 → Nat} {σ : Type} {candidate : UInt64} {needed : Nat}
  {sample : List Key → σ → List Victim × σ}

/-! ## The first of the least -/

/-- Those before it are more frequent, and those after it are not less frequent. -/
def FirstLeast (frequency : UInt64 → Nat) (victims : List Victim) (v : Victim) : Prop :=
  ∃ before after, victims = before ++ v :: after ∧
    (∀ w ∈ before, frequency v.hash < frequency w.hash) ∧
    ∀ w ∈ after, frequency v.hash ≤ frequency w.hash

theorem FirstLeast.mem {victims : List Victim} {v : Victim}
    (h : FirstLeast frequency victims v) : v ∈ victims := by
  obtain ⟨before, after, rfl, -, -⟩ := h
  simp

theorem firstLeast_of_weakest {victims : List Victim} {v : Victim}
    (h : weakest frequency victims = some v) : FirstLeast frequency victims v := by
  have hne : victims ≠ [] := List.ne_nil_of_mem (weakest_mem h)
  have hv : v = victims.minOn (fun v => frequency v.hash) hne := by
    rw [weakest, List.minOn?_eq_some_minOn hne] at h
    exact (Option.some.inj h).symm
  have hget : victims[victims.minIdxOn (fun v => frequency v.hash) hne] = v := by
    rw [hv]
    exact List.getElem_minIdxOn hne
  refine ⟨victims.take (victims.minIdxOn (fun v => frequency v.hash) hne),
    victims.drop (victims.minIdxOn (fun v => frequency v.hash) hne + 1), ?_, ?_, ?_⟩
  · rw [← hget, ← List.drop_eq_getElem_cons, List.take_append_drop]
  · intro w hw
    obtain ⟨i, hi, rfl⟩ := List.mem_take_iff_getElem.mp hw
    rw [hv]
    exact List.apply_minOn_lt_apply_getElem_of_lt_minIdxOn hne (lt_min_iff.mp hi).1
  · exact fun w hw => weakest_le h (List.mem_of_mem_drop hw)

/-! ## Calls -/

/-- The sampler is given the keys chosen so far and offers some victims. -/
structure Call where
  chosen : List Key
  offered : List Victim

/-- The sampler, with its calls written down. -/
def recorded (sample : List Key → σ → List Victim × σ) (chosen : List Key)
    (state : σ × List Call) : List Victim × σ × List Call :=
  let (offered, next) := sample chosen state.1
  (offered, next, state.2 ++ [⟨chosen, offered⟩])

theorem recorded_agree (chosen : List Key) (state : σ) (both : σ × List Call)
    (h : both.1 = state) :
    Agree (fun state both => both.1 = state) (sample chosen state)
      (recorded sample chosen both) := by
  subst h
  exact ⟨rfl, rfl⟩

theorem map_of_agree {plain : Option (Decision × σ)} {told : Option (Decision × σ × List Call)}
    (h : Option.Rel (Agree fun state both => both.1 = state) plain told) :
    told.map (fun answer => (answer.1, answer.2.1)) = plain := by
  cases h with
  | none => rfl
  | some hsame => exact congrArg some (Prod.ext hsame.answer hsame.state)

theorem contest_more {rounds freed : Nat} {chosen : List Key} {state : σ}
    {answer : Decision × σ} (more : Nat)
    (h : contest frequency candidate needed sample rounds chosen freed state = some answer) :
    contest frequency candidate needed sample (rounds + more) chosen freed state =
      some answer := by
  induction rounds generalizing chosen freed state with
  | zero =>
    unfold contest at h ⊢
    split at h
    · rename_i henough
      rw [if_pos henough, h]
    · exact absurd h (by simp)
  | succ rounds ih =>
    by_cases henough : needed ≤ freed
    · unfold contest at h ⊢
      rw [if_pos henough] at h ⊢
      exact h
    · rw [contest_succ _ _ _ (by omega)] at h
      rw [Nat.add_right_comm, contest_succ _ _ _ (by omega)]
      split at h
      · rename_i hbeaten
        rw [if_pos hbeaten, h]
      · rename_i hbeats
        rw [if_neg hbeats]
        cases hweakest : weakest frequency (sample chosen state).1 with
        | none => simpa only [hweakest] using h
        | some v =>
          simp only [hweakest] at h
          exact ih h

theorem judge_recorded (frequency : UInt64 → Nat) (candidate : UInt64) (needed : Nat)
    (sample : List Key → σ → List Victim × σ) (rounds : Nat) (state : σ) :
    (judge frequency candidate needed (recorded sample) rounds (state, [])).map
        (fun answer => (answer.1, answer.2.1)) =
      judge frequency candidate needed sample rounds state :=
  map_of_agree (judge_agree recorded_agree needed rounds rfl)

theorem judge_more {rounds : Nat} {state : σ} {answer : Decision × σ} (more : Nat)
    (h : judge frequency candidate needed sample rounds state = some answer) :
    judge frequency candidate needed sample (rounds + more) state = some answer := by
  unfold judge at h ⊢
  split at h
  · rename_i hneeded
    rw [if_pos hneeded, h]
  · rename_i hneeded
    rw [if_neg hneeded]
    exact contest_more more h

/-! ## Rounds told by calls -/

/-- The round is won, and this victim is chosen in it. -/
structure WonAgainst (frequency : UInt64 → Nat) (candidate : UInt64) (call : Call)
    (v : Victim) : Prop where
  firstLeast : FirstLeast frequency call.offered v
  weaker : frequency v.hash < frequency candidate

/-- Nobody that is offered is less frequent than the candidate. Nobody may be offered at all. -/
def Lost (frequency : UInt64 → Nat) (candidate : UInt64) (call : Call) : Prop :=
  ∀ v ∈ call.offered, frequency candidate ≤ frequency v.hash

theorem WonAgainst.not_lost {call : Call} {v : Victim}
    (h : WonAgainst frequency candidate call v) : ¬Lost frequency candidate call := by
  intro hlost
  have hle := hlost v h.firstLeast.mem
  have hlt := h.weaker
  omega

theorem Wins.calls {chosen : List Key} {start last : σ × List Call} {victims : List Victim}
    (h : Wins frequency candidate (recorded sample) chosen start victims last) :
    ∃ calls, last.2 = start.2 ++ calls ∧
      List.Forall₂ (WonAgainst frequency candidate) calls victims ∧
      ∀ i (hi : i < calls.length), calls[i].chosen = chosen ++ (victims.take i).map (·.key) := by
  induction h with
  | nil => exact ⟨[], (List.append_nil _).symm, .nil, by simp⟩
  | @round chosen start last v victims hweakest hlt _ ih =>
    obtain ⟨calls, hlast, hwon, hasked⟩ := ih
    refine ⟨⟨chosen, (sample chosen start.1).1⟩ :: calls, ?_, ?_, ?_⟩
    · rw [hlast]
      simp [recorded]
    · exact .cons ⟨firstLeast_of_weakest hweakest, hlt⟩ hwon
    · rintro (_ | i) hi
      · simp
      · rw [List.getElem_cons_succ, hasked i (by simpa using hi)]
        simp

theorem exists_won {calls : List Call} {victims : List Victim}
    (h : List.Forall₂ (WonAgainst frequency candidate) calls victims) {call : Call}
    (hcall : call ∈ calls) : ∃ v, WonAgainst frequency candidate call v := by
  induction h with
  | nil => exact absurd hcall List.not_mem_nil
  | cons hfirst _ ih =>
    rcases List.mem_cons.mp hcall with rfl | hcall
    · exact ⟨_, hfirst⟩
    · exact ih hcall

/-- Every round is won, and the last of them frees what was still needed. -/
structure WinsAll (frequency : UInt64 → Nat) (candidate : UInt64) (needed : Nat)
    (calls : List Call) (victims : List Victim) : Prop where
  won : List.Forall₂ (WonAgainst frequency candidate) calls victims
  enough : needed ≤ freedBy victims
  no_spare : freedBy victims.dropLast < needed

/-- The last round is lost, and those before it are won without freeing enough. -/
def LosesLast (frequency : UInt64 → Nat) (candidate : UInt64) (needed : Nat)
    (calls : List Call) : Prop :=
  ∃ before call victims, calls = before ++ [call] ∧
    List.Forall₂ (WonAgainst frequency candidate) before victims ∧
    freedBy victims < needed ∧ Lost frequency candidate call

theorem WinsAll.not_losesLast {calls : List Call} {victims : List Victim}
    (h : WinsAll frequency candidate needed calls victims) :
    ¬LosesLast frequency candidate needed calls := by
  rintro ⟨before, call, -, rfl, -, -, hlost⟩
  obtain ⟨v, hv⟩ := exists_won h.won (List.mem_append_right before (List.mem_singleton_self call))
  exact hv.not_lost hlost

/-- A contest ends in one of two ways, and both can be read off its calls. -/
theorem contest_calls {rounds : Nat} {state : σ} {decision : Decision} {last : σ × List Call}
    (hneeded : 0 < needed)
    (h : contest frequency candidate needed (recorded sample) rounds [] 0 (state, []) =
      some (decision, last)) :
    ∃ victims, (∃ mid, Wins frequency candidate (recorded sample) [] (state, []) victims mid) ∧
      List.Forall₂ (WonAgainst frequency candidate) (last.2.take victims.length) victims ∧
      last.2.length ≤ victims.length + 1 ∧
      (∀ i (hi : i < last.2.length), last.2[i].chosen = (victims.take i).map (·.key)) ∧
      (decision = .displace (victims.map (·.key)) ∧
          WinsAll frequency candidate needed last.2 victims ∨
        decision = .refuse ∧ LosesLast frequency candidate needed last.2) := by
  obtain ⟨victims, mid, hwins, hprefix, hends⟩ := contest_rounds h
  obtain ⟨calls, hmid, hwon, hasked⟩ := hwins.calls
  simp only [List.nil_append] at hmid hasked
  have hlength := hwon.length_eq
  rw [Nat.zero_add] at hends
  refine ⟨victims, ⟨mid, hwins⟩, ?_⟩
  cases hends with
  | displace henough =>
    have hne : victims ≠ [] := by
      rintro rfl
      simp only [freedBy_nil] at henough
      omega
    have hspare := hprefix hne
    rw [Nat.zero_add] at hspare
    rw [← hmid] at hwon hlength hasked
    refine ⟨?_, by omega, hasked, .inl ⟨rfl, hwon, henough, hspare⟩⟩
    rwa [← hlength, List.take_length]
  | refuse hless hlost =>
    have hcalls : (recorded sample (victims.map (·.key)) mid).2.2 =
        calls ++ [⟨victims.map (·.key), (sample (victims.map (·.key)) mid.1).1⟩] := by
      simp [recorded, hmid]
    rw [List.nil_append, hcalls]
    refine ⟨?_, by simp [hlength], ?_, .inr ⟨rfl, calls, _, victims, rfl, hwon, hless, hlost⟩⟩
    · rwa [← hlength, List.take_left]
    · intro i hi
      rw [List.length_append, List.length_singleton] at hi
      by_cases hlast : i < calls.length
      · rw [List.getElem_append_left hlast, hasked i hlast]
      · obtain rfl : i = calls.length := by omega
        rw [List.getElem_concat_length rfl, hlength, List.take_length]

/-- What the calls of a judgement tell of its decision. -/
structure ToldBy (frequency : UInt64 → Nat) (candidate : UInt64) (needed : Nat)
    (calls : List Call) (decision : Decision) : Prop where
  idle : needed = 0 → decision = .fits ∧ calls = []
  /-- A call gets the keys that the rounds before it have chosen, in their order. -/
  asked : ∀ i (hi : i < calls.length), ∃ victims,
    List.Forall₂ (fun call v => FirstLeast frequency call.offered v) (calls.take i) victims ∧
      calls[i].chosen = victims.map (·.key)
  displaced_iff : (∃ keys, decision = .displace keys) ↔
    needed ≠ 0 ∧ ∀ call ∈ calls, ∃ v ∈ call.offered, frequency v.hash < frequency candidate
  displaced : ∀ keys, decision = .displace keys → ∃ victims,
    WinsAll frequency candidate needed calls victims ∧ keys = victims.map (·.key)
  refused_iff : decision = .refuse ↔ LosesLast frequency candidate needed calls

/-- The decision on a candidate can be told from what the sampler was asked and what it has
offered, for every sampler. -/
theorem decision_told_by_calls {rounds : Nat} {state last : σ} {decision : Decision}
    (h : judge frequency candidate needed sample rounds state = some (decision, last)) :
    ∃ calls,
      (∀ more, judge frequency candidate needed (recorded sample) (rounds + more) (state, []) =
        some (decision, last, calls)) ∧
      ToldBy frequency candidate needed calls decision := by
  rw [← judge_recorded] at h
  obtain ⟨⟨decision', last', calls⟩, hjudge, hsame⟩ := Option.map_eq_some_iff.mp h
  obtain ⟨rfl, rfl⟩ := Prod.mk.inj hsame
  refine ⟨calls, fun more => judge_more more hjudge, ?_⟩
  by_cases hneeded : needed = 0
  · simp only [judge, if_pos hneeded] at hjudge
    obtain ⟨rfl, hlast⟩ := Prod.mk.inj (Option.some.inj hjudge)
    obtain ⟨-, rfl⟩ := Prod.mk.inj hlast
    exact ⟨fun _ => ⟨rfl, rfl⟩, by simp, by simp [hneeded], by simp, by simp [LosesLast]⟩
  · rw [judge, if_neg hneeded] at hjudge
    obtain ⟨victims, -, hwon, hlength, hasked, hends⟩ :=
      contest_calls (Nat.pos_of_ne_zero hneeded) hjudge
    dsimp only at hwon hlength hasked hends
    constructor
    case idle => exact fun hzero => absurd hzero hneeded
    case asked =>
      intro i hi
      refine ⟨victims.take i, ?_, hasked i hi⟩
      have hfirst := List.forall₂_take i (hwon.imp fun _ _ hv => hv.firstLeast)
      rwa [List.take_take, Nat.min_eq_left (by omega)] at hfirst
    case displaced_iff =>
      rcases hends with ⟨rfl, hall⟩ | ⟨rfl, before, call, -, rfl, -, -, hlost⟩
      · refine iff_of_true ⟨_, rfl⟩ ⟨hneeded, fun call hcall => ?_⟩
        obtain ⟨v, hv⟩ := exists_won hall.won hcall
        exact ⟨v, hv.firstLeast.mem, hv.weaker⟩
      · refine iff_of_false (by simp) ?_
        rintro ⟨-, hwins⟩
        obtain ⟨v, hv, hlt⟩ := hwins call (by simp)
        exact absurd (hlost v hv) (by omega)
    case displaced =>
      rintro keys rfl
      rcases hends with ⟨hkeys, hall⟩ | ⟨hrefuse, -⟩
      · exact ⟨victims, hall, Decision.displace.inj hkeys⟩
      · exact absurd hrefuse (by simp)
    case refused_iff =>
      rcases hends with ⟨rfl, hall⟩ | ⟨rfl, hloses⟩
      · exact iff_of_false (by simp) hall.not_losesLast
      · exact iff_of_true rfl hloses

/-- The sampler offers two other victims each time, and what is needed takes two rounds. -/
theorem decision_told_by_two_calls :
    let sample (_ : List Key) (n : UInt8) : List Victim × UInt8 :=
      ([⟨[n, 0], 3, 2⟩, ⟨[n, 1], 1, 2⟩, ⟨[n, 2], 1, 0⟩], n + 1)
    judge UInt64.toNat 2 3 sample 2 0 = some (.displace [[0, 1], [1, 1]], 2) ∧
      ∃ calls,
        (∀ more, judge UInt64.toNat 2 3 (recorded sample) (2 + more) (0, []) =
          some (.displace [[0, 1], [1, 1]], 2, calls)) ∧
        ToldBy UInt64.toNat 2 3 calls (.displace [[0, 1], [1, 1]]) :=
  ⟨by decide, decision_told_by_calls (by decide)⟩

/-! ## How many calls -/

/-- So many calls give this answer at most, and no more rounds would change it. -/
def AnswersWithin (frequency : UInt64 → Nat) (candidate : UInt64) (needed : Nat)
    (sample : List Key → σ → List Victim × σ) (state : σ) (bound : Nat) (decision : Decision)
    (last : σ) : Prop :=
  ∃ calls : List Call, calls.length ≤ bound ∧ ∀ rounds, bound ≤ rounds →
    judge frequency candidate needed (recorded sample) rounds (state, []) =
      some (decision, last, calls)

/-- In the states that it reaches, the sampler offers keys of the pool, and none that is
chosen already. -/
structure DrawsFrom (pool : Finset Key) (reached : σ → Prop)
    (sample : List Key → σ → List Victim × σ) : Prop where
  step : ∀ chosen state, reached state → reached (sample chosen state).2
  offered : ∀ chosen state, reached state → ∀ v ∈ (sample chosen state).1,
    v.key ∈ pool ∧ v.key ∉ chosen

variable {pool : Finset Key} {reached : σ → Prop} {state last : σ} {decision : Decision}

theorem DrawsFrom.recorded (h : DrawsFrom pool reached sample) :
    DrawsFrom pool (fun st => reached st.1) (recorded sample) :=
  ⟨fun chosen st => h.step chosen st.1, fun chosen st => h.offered chosen st.1⟩

theorem DrawsFrom.wins_length_le (h : DrawsFrom pool reached sample) (hstate : reached state)
    {victims : List Victim} (hwins : Wins frequency candidate sample [] state victims last) :
    victims.length ≤ pool.card := by
  have hnodup : (victims.map (·.key)).Nodup :=
    hwins.nodup h.step (fun chosen st hst v hv => (h.offered chosen st hst v hv).2) hstate .nil
  have hoffered := hwins.forall_mem (P := fun v => v.key ∈ pool) h.step
    (fun chosen st hst v hv => (h.offered chosen st hst v hv).1) hstate
  have hpool : victims.map (·.key) ⊆ pool.toList := by
    intro key hkey
    obtain ⟨v, hv, rfl⟩ := List.mem_map.mp hkey
    exact Finset.mem_toList.mpr (hoffered v hv).1
  have hle := (List.subperm_of_subset hnodup hpool).length_le
  rwa [List.length_map, Finset.length_toList] at hle

theorem AnswersWithin.mono {bound more : Nat} (hle : bound ≤ more)
    (h : AnswersWithin frequency candidate needed sample state bound decision last) :
    AnswersWithin frequency candidate needed sample state more decision last := by
  obtain ⟨calls, hlength, hjudge⟩ := h
  exact ⟨calls, hlength.trans hle, fun rounds hrounds => hjudge rounds (hle.trans hrounds)⟩

theorem AnswersWithin.judge_eq {bound rounds : Nat} (hrounds : bound ≤ rounds)
    (h : AnswersWithin frequency candidate needed sample state bound decision last) :
    judge frequency candidate needed sample rounds state = some (decision, last) := by
  obtain ⟨calls, -, hjudge⟩ := h
  rw [← judge_recorded, hjudge rounds hrounds]
  rfl

/-- Each won round takes another key of the pool, so one call more than there are keys is
enough, whatever the victims free. -/
theorem DrawsFrom.answersWithin (h : DrawsFrom pool reached sample) (hstate : reached state)
    (frequency : UInt64 → Nat) (candidate : UInt64) (needed : Nat) :
    ∃ decision last,
      AnswersWithin frequency candidate needed sample state (pool.card + 1) decision last := by
  by_cases hneeded : needed = 0
  · exact ⟨.fits, state, [], Nat.zero_le _, fun _ _ => by rw [judge, if_pos hneeded]⟩
  · have hanswer : contest frequency candidate needed (Admission.recorded sample)
        (pool.card + 1) [] 0 (state, []) ≠ none := by
      apply contest_ne_none pool.toList h.recorded.step _ hstate .nil (by simp) (by simp)
      simpa using h.recorded.offered
    obtain ⟨⟨decision, last, calls⟩, hcontest⟩ := Option.ne_none_iff_exists'.mp hanswer
    obtain ⟨victims, ⟨mid, hwins⟩, -, hlength, -⟩ :=
      contest_calls (Nat.pos_of_ne_zero hneeded) hcontest
    have hle := h.recorded.wins_length_le hstate hwins
    refine ⟨decision, last, calls, by dsimp only at hlength; omega, fun rounds hrounds => ?_⟩
    obtain ⟨more, rfl⟩ := Nat.exists_eq_add_of_le hrounds
    rw [judge, if_neg hneeded]
    exact contest_more more hcontest

end LfuCache.Admission
