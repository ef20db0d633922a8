import HstsPreload.Record
import Std.Data.ExtTreeMap

/-!
The read cache: values read from the store, kept for a while. Every write through the registry empties
it and begins a new generation; a value read under an older generation is not kept, so that a read
which overlaps a write cannot bring back what was there before.
-/

namespace HstsPreload

/-- A value with the time at which it was kept, in milliseconds. -/
structure Kept (α : Type) where
  value : α
  since : Nat

/-- The value if it was kept less than `ttl` milliseconds before `time`. -/
def Kept.fresh? {α : Type} (k : Kept α) (ttl time : Nat) : Option α :=
  if time - k.since < ttl then some k.value else none

structure Cache where
  /-- How many milliseconds a value is kept; with zero nothing is. -/
  ttl : Nat := 0
  generation : UInt64 := 0
  byStatus : Status → Option (Kept (List Record)) := fun _ => none
  byDomain : Std.ExtTreeMap String (Kept Record) := ∅

namespace Cache

/-- Whether values are kept at all. -/
def isEnabled (c : Cache) : Bool :=
  c.ttl != 0

def find? (c : Cache) (time : Nat) (domain : String) : Option Record :=
  if c.isEnabled then (c.byDomain[domain]?).bind fun k => k.fresh? c.ttl time else none

def withStatus? (c : Cache) (time : Nat) (s : Status) : Option (List Record) :=
  if c.isEnabled then (c.byStatus s).bind fun k => k.fresh? c.ttl time else none

/-- Keeps a record that was read under a generation, and lets go of records that are too old. -/
def keep (c : Cache) (time : Nat) (generation : UInt64) (r : Record) : Cache :=
  if c.isEnabled ∧ c.generation = generation then
    { c with byDomain :=
        (c.byDomain.filter fun _ k => (k.fresh? c.ttl time).isSome).insert r.name ⟨r, time⟩ }
  else c

/-- Keeps the records of a status that were read under a generation. -/
def keepList (c : Cache) (time : Nat) (generation : UInt64) (s : Status) (rs : List Record) :
    Cache :=
  if c.isEnabled ∧ c.generation = generation then
    { c with byStatus := fun t => if t = s then some ⟨rs, time⟩ else c.byStatus t }
  else c

/-- Empties the cache and begins a new generation. -/
def invalidate (c : Cache) : Cache :=
  { c with generation := c.generation + 1, byStatus := fun _ => none, byDomain := ∅ }

end Cache

end HstsPreload
