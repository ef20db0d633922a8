import HstsPreload.Json.Buffered

/-!
The lifecycle of a domain within the registry.
-/

namespace HstsPreload

open HstsPreload.Json

/-- Where a domain stands. -/
inductive Status where
  | unknown
  | pending
  | preloaded
  | pendingRemoval
  | pendingAutomatedRemoval
  | removed
  | rejected
  deriving Repr, DecidableEq, Inhabited

namespace Status

/-- Every status, in the order of the lifecycle. -/
def all : List Status :=
  [.unknown, .pending, .preloaded, .pendingRemoval, .pendingAutomatedRemoval, .removed, .rejected]

def text : Status → String
  | .unknown => "unknown"
  | .pending => "pending"
  | .preloaded => "preloaded"
  | .pendingRemoval => "pending-removal"
  | .pendingAutomatedRemoval => "pending-automated-removal"
  | .removed => "removed"
  | .rejected => "rejected"

def words : Words Status := ⟨all, text⟩

def ofText? (word : String) : Option Status :=
  words.find? word

def toJson (s : Status) : Value :=
  .string s.text

def read : Reader Status :=
  words.read

end Status

end HstsPreload
