import HstsPreload.Record
import Std.Data.ExtTreeMap
import Std.Data.ExtTreeSet

/-!
Comparing records with those one wants: each wanted record must be there once, and nothing else.
-/

namespace HstsPreload

/-- Why records are not the wanted ones. -/
inductive WantedFault where
  | repeated (name : String)
  | missing (name : String)
  | mismatch (name : String)
  | count (wanted actual : Nat)
  deriving Repr, DecidableEq

def WantedFault.message : WantedFault → String
  | .repeated name => s!"repeated wanted domain: {name}"
  | .missing name => s!"missing wanted domain: {name}"
  | .mismatch name => s!"domain state does not match wanted state: {name}"
  | .count wanted actual => s!"expected {wanted} domain states, found {actual}"

namespace Record

/-- Whether a record is as wanted: the name and the status agree, and the message where one is
wanted. -/
def matchesWanted (r wanted : Record) : Bool :=
  r.name == wanted.name && r.status == wanted.status
    && (wanted.message == "" || r.message == wanted.message)

/-- The first name that repeats an earlier one, given the names already seen. -/
def firstRepeated? (seen : Std.ExtTreeSet String) : List Record → Option String
  | [] => none
  | r :: rest =>
    if r.name ∈ seen then some r.name else firstRepeated? (seen.insert r.name) rest

/-- The records by name; of several with one name the last counts. -/
def byName (records : List Record) : Std.ExtTreeMap String Record :=
  records.foldl (fun m r => m.insert r.name r) ∅

/-- The first wanted record that is missing or different. -/
def firstUnmet? (actual : Std.ExtTreeMap String Record) : List Record → Option WantedFault
  | [] => none
  | w :: rest =>
    match actual[w.name]? with
    | none => some (.missing w.name)
    | some r => if r.matchesWanted w then firstUnmet? actual rest else some (.mismatch w.name)

/-- Checks that records are exactly the wanted ones, in any order. -/
def matchWanted (actual wanted : List Record) : Except WantedFault Unit :=
  match firstRepeated? ∅ wanted with
  | some name => .error (.repeated name)
  | none =>
    match firstUnmet? (byName actual) wanted with
    | some fault => .error fault
    | none =>
      if actual.length = wanted.length then .ok ()
      else .error (.count wanted.length actual.length)

end Record

end HstsPreload
