import HstsPreload.Record
import HstsPreload.Time.Span

/-!
Stores of records: what they answer, how they fail, and the deadline of an operation.
-/

namespace HstsPreload

/-- Why a store does not answer. -/
inductive StoreFault where
  | timeout (limit : Span)
  | unavailable (detail : String)
  | backend (detail : String)
  | corrupt (name detail : String)
  deriving Repr, DecidableEq

def StoreFault.message : StoreFault → String
  | .timeout limit => s!"operation timed out after {limit.text}"
  | .unavailable detail => s!"store unavailable: {detail}"
  | .backend detail => s!"store backend error: {detail}"
  | .corrupt name detail => s!"stored record for {name} is malformed: {detail}"

/-- An attempt to write: how many milliseconds it takes, what comes of it, and the store afterwards,
also if it is given up before it is done. -/
structure Attempt (σ : Type) where
  took : Nat
  outcome : Except StoreFault Unit
  after : σ
  abandoned : σ

/-- A store of records. A batch is written as a whole or not at all. -/
class RecordStore (σ : Type) where
  /-- The record of a domain; one that was never written reads as unknown. -/
  find : σ → String → Except StoreFault Record
  /-- The records with a status, by name. -/
  withStatus : σ → Status → Except StoreFault (List Record)
  /-- The names of the records with a status, in order. -/
  namesWithStatus : σ → Status → Except StoreFault (List String)
  /-- All records, by name. -/
  all : σ → Except StoreFault (List Record)
  /-- Whether the store answers at all. -/
  check : σ → Except StoreFault Unit
  /-- Tries to write a batch. -/
  write : σ → List Record → Attempt σ

/-- How many seconds an operation may take. -/
def deadlineSeconds : Nat := 10

/-- What comes of an attempt that is given up when it takes longer than the deadline. -/
def Attempt.withinDeadline {σ : Type} (a : Attempt σ) : Except StoreFault Unit × σ :=
  if 1000 * deadlineSeconds < a.took then (.error (.timeout ⟨deadlineSeconds, 0⟩), a.abandoned)
  else (a.outcome, a.after)

end HstsPreload
