import Mathlib
import LfuCache.Proofs.Engine.Ledger
import LfuCache.Proofs.Shard.Room

/-!
# A plain map

The same calls on a map that knows no capacity, no placement and no time. Entries that never
expire and that all fit are kept by the cache as this map keeps them.
-/

namespace LfuCache

structure Stored where
  value : ByteArray
  cost : Nat

abbrev PlainMap := Std.TreeMap Key Stored

/-- A key that a cache takes. -/
abbrev ProperKey := { key : Key // key ≠ [] }

/-- Calls without times to live. -/
inductive PlainCall where
  | get (key : ProperKey) (now : Instant)
  | set (key : ProperKey) (value : ByteArray) (cost : Option Nat) (now : Instant)
  | delete (key : ProperKey) (now : Instant)
  | clear

namespace PlainCall

def onCache : PlainCall → EngineCall
  | .get key now => .get key.val now
  | .set key value cost now => .set key.val value cost none now
  | .delete key now => .delete key.val now
  | .clear => .clear

def isSet : PlainCall → Bool
  | .set _ _ _ _ => true
  | _ => false

end PlainCall

namespace PlainMap

def call (m : PlainMap) : PlainCall → EngineAnswer × PlainMap
  | .get key _ => (.found ((m[key.val]?).map (·.value)), m)
  | .set key value cost _ =>
    (.wrote true, m.insert key.val ⟨value, Engine.effectiveCost key.val value cost⟩)
  | .delete key _ => (.deleted (m[key.val]?).isSome, m.erase key.val)
  | .clear => (.cleared, ∅)

def after (m : PlainMap) (calls : List PlainCall) : PlainMap :=
  calls.foldl (fun m call => (m.call call).2) m

def answers (m : PlainMap) : List PlainCall → List EngineAnswer
  | [] => []
  | call :: calls => (m.call call).1 :: (m.call call).2.answers calls

/-- The gets that find a value. -/
def hits (m : PlainMap) (calls : List PlainCall) : Nat :=
  (m.answers calls).countP fun
    | .found value => value.isSome
    | _ => false

def misses (m : PlainMap) (calls : List PlainCall) : Nat :=
  (m.answers calls).countP fun
    | .found value => value.isNone
    | _ => false

/-! ## What a shard would have to hold -/

/-- The entries that are routed to a shard. -/
def routed (config : CacheConfig) (m : PlainMap) (index : Nat) : PlainMap :=
  m.filter fun key _ => config.route key = index

def load (config : CacheConfig) (m : PlainMap) (index : Nat) : Nat :=
  Map.total (·.cost) (routed config m index)

/-- After each write, each shard has room for all that is routed to it. -/
def Roomy (config : CacheConfig) : PlainMap → List PlainCall → Prop
  | _, [] => True
  | m, call :: calls =>
    (call.isSet = true → ∀ i < config.shardCount,
      load config (m.call call).2 i ≤ config.shardCapacity i) ∧
    Roomy config (m.call call).2 calls

def decideRoomy (config : CacheConfig) :
    ∀ (m : PlainMap) (calls : List PlainCall), Decidable (Roomy config m calls)
  | _, [] => .isTrue trivial
  | m, call :: calls =>
    have := decideRoomy config (m.call call).2 calls
    inferInstanceAs (Decidable (_ ∧ _))

instance (config : CacheConfig) (m : PlainMap) (calls : List PlainCall) :
    Decidable (Roomy config m calls) := decideRoomy config m calls

variable {config : CacheConfig} {m : PlainMap} {key : Key}

theorem get_routed (m : PlainMap) (index : Nat) (key : Key) :
    (routed config m index)[key]? = if config.route key = index then m[key]? else none := by
  rw [routed, Std.TreeMap.getElem?_filter']
  by_cases h : config.route key = index <;> cases m[key]? <;> simp [h]

theorem load_insert (config : CacheConfig) (m : PlainMap) (key : Key) (stored : Stored) :
    load config (m.insert key stored) (config.route key) + (m[key]?).elim 0 (·.cost) =
      load config m (config.route key) + stored.cost := by
  have hsame : ∀ k : Key, (routed config (m.insert key stored) (config.route key))[k]? =
      ((routed config m (config.route key)).insert key stored)[k]? := by
    intro k
    rw [get_routed, Map.get_insert, Map.get_insert, get_routed]
    by_cases hk : key = k
    · subst hk
      simp
    · simp [hk]
  have hkey : (routed config m (config.route key))[key]? = m[key]? := by
    rw [get_routed, if_pos rfl]
  rw [load, load, Map.total_congr hsame]
  cases hget : m[key]? with
  | none =>
    rw [hget] at hkey
    exact Map.total_insert_new hkey
  | some old =>
    rw [hget] at hkey
    exact Map.total_insert_over hkey

end PlainMap

end LfuCache
