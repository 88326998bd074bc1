import LfuCache.Entry

/-!
# Admission

A new key that does not fit has to win its room. In each round it meets some residents and
must be more frequent than the least frequent of them, which is then chosen to go. Nothing
is given up before the last round is won.
-/

namespace LfuCache

/-- A resident that may have to go. -/
structure Victim where
  key : Key
  hash : UInt64
  /-- What it frees. -/
  cost : Nat
deriving DecidableEq, Repr

inductive Decision where
  /-- There is room already. -/
  | fits
  /-- The candidate lost, and all stays as it is. -/
  | refuse
  /-- The candidate won, and these keys have to go. -/
  | displace (keys : List Key)
deriving DecidableEq, Repr

namespace Admission

variable (frequency : UInt64 → Nat)

/-- More frequent than the least of the victims. A tie goes to the resident. Without
victims there is nothing to beat. -/
def beats (candidate : UInt64) (victims : List Victim) : Bool :=
  match (victims.map fun v => frequency v.hash).min? with
  | none => true
  | some least => decide (least < frequency candidate)

/-- The first of the least frequent victims. -/
def weakest (victims : List Victim) : Option Victim :=
  victims.minOn? fun v => frequency v.hash

/-- The rounds from here on. The sampler gets the keys chosen so far, and may change its
own state. Without an answer after the last round, there is none. -/
def contest {σ : Type} (candidate : UInt64) (needed : Nat)
    (sample : List Key → σ → List Victim × σ) :
    Nat → List Key → Nat → σ → Option (Decision × σ)
  | rounds, chosen, freed, state =>
    if needed ≤ freed then some (.displace chosen, state)
    else match rounds with
      | 0 => none
      | rounds + 1 =>
        let (victims, state) := sample chosen state
        if !beats frequency candidate victims then some (.refuse, state)
        else match weakest frequency victims with
          | none => some (.refuse, state)
          | some v =>
            contest candidate needed sample rounds (chosen ++ [v.key]) (freed + v.cost) state

/-- Judges if the candidate can free the units that it needs, in so many rounds. -/
def judge {σ : Type} (candidate : UInt64) (needed : Nat)
    (sample : List Key → σ → List Victim × σ) (rounds : Nat) (state : σ) :
    Option (Decision × σ) :=
  if needed = 0 then some (.fits, state)
  else contest frequency candidate needed sample rounds [] 0 state

end Admission

end LfuCache
