/-!
# Keys, entries and time

A key and a value are byte strings. Time is counted in nanoseconds, on a clock that
never goes back.
-/

namespace LfuCache

abbrev Key := List UInt8

/-! ## Time -/

abbrev Duration := Nat

/-- Nanoseconds since the clock started. -/
abbrev Instant := Nat

/-- The last instant the clock can show. Its seconds fit a signed 64-bit word. -/
def lastInstant : Instant := 0x8000000000000000 * 1000000000 - 1

/-- A time to live that ends after the last instant never ends. -/
def expiryAfter (ttl : Option Duration) (now : Instant) : Option Instant :=
  ttl.bind fun d => if now + d ≤ lastInstant then some (now + d) else none

/-- What expires at `t` is gone at `t` already, so a time to live of zero is never seen. -/
def expiredAt (expiresAt : Option Instant) (now : Instant) : Bool :=
  match expiresAt with
  | none => false
  | some t => decide (t ≤ now)

/-! ## Entries -/

/-- Where an entry lives. The window takes new entries as they come, main holds the rest. -/
inductive Segment where
  | window
  | main
deriving DecidableEq, Repr

structure Entry where
  value : ByteArray
  /-- Capacity units that the entry takes. -/
  cost : Nat
  /-- Hash of the key, to look up how often it is used. -/
  hash : UInt64
  expiresAt : Option Instant
  segment : Segment

def Entry.isExpired (entry : Entry) (now : Instant) : Bool :=
  expiredAt entry.expiresAt now

end LfuCache
