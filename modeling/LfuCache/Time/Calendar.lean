/-!
# Dates

A moment is counted in nanoseconds since the start of 1970, in universal time. Its date
follows the calendar that is in use today, also for days before it was.
-/

namespace LfuCache.Calendar

structure Date where
  year : Nat
  month : Nat
  day : Nat
deriving DecidableEq, Repr

def isLeap (year : Nat) : Bool := year % 4 = 0 && (year % 100 ≠ 0 || year % 400 = 0)

def daysIn (year : Nat) : Nat := if isLeap year then 366 else 365

def monthLengths (year : Nat) : List Nat :=
  [31, if isLeap year then 29 else 28, 31, 30, 31, 30, 31, 31, 30, 31, 30, 31]

/-- Counts whole months off. -/
def monthAndDay : (month : Nat) → List Nat → (days : Nat) → Nat × Nat
  | month, [], days => (month, days + 1)
  | month, n :: lengths, days =>
    if days < n then (month, days + 1) else monthAndDay (month + 1) lengths (days - n)

/-- Counts whole years off. A year has more than 364 days, so the days run out first. -/
def yearAndDays : (most : Nat) → (year : Nat) → (days : Nat) → Nat × Nat
  | 0, year, days => (year, days)
  | most + 1, year, days =>
    if days < daysIn year then (year, days) else yearAndDays most (year + 1) (days - daysIn year)

/-- The date that comes so many days after the first day of 1970. -/
def dateOf (days : Nat) : Date :=
  let (year, days) := yearAndDays (days / 365 + 1) 1970 days
  let (month, day) := monthAndDay 1 (monthLengths year) days
  ⟨year, month, day⟩

/-- A number with zeros in front, up to a width. -/
def padded (width n : Nat) : String :=
  let digits := toString n
  String.ofList (List.replicate (width - digits.length) '0') ++ digits

/-- Three, six or nine digits, as few as say all. None if there is nothing to say. -/
def fraction (nanoseconds : Nat) : String :=
  if nanoseconds = 0 then ""
  else if nanoseconds % 1000000 = 0 then "." ++ padded 3 (nanoseconds / 1000000)
  else if nanoseconds % 1000 = 0 then "." ++ padded 6 (nanoseconds / 1000)
  else "." ++ padded 9 nanoseconds

/-- A moment as text, with the offset of universal time. -/
def render (moment : Nat) : String :=
  let seconds := moment / 1000000000
  let date := dateOf (seconds / 86400)
  let time := seconds % 86400
  s!"{date.year}-" ++ padded 2 date.month ++ "-" ++ padded 2 date.day ++ "T" ++
    padded 2 (time / 3600) ++ ":" ++ padded 2 (time / 60 % 60) ++ ":" ++ padded 2 (time % 60) ++
    fraction (moment % 1000000000) ++ "+00:00"

end LfuCache.Calendar
