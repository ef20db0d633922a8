import HstsPreload.Pending.Checks
import HstsPreload.Scanner

/-!
The changes that wait to be made to the preload list.
-/

namespace HstsPreload

open HstsPreload.Checks

/-- Names to add to the list and names to take off it. Automated removals come from a scan, the
others from operators. -/
structure PendingChanges where
  additions : List String := []
  removals : List String := []
  automatedRemovals : List String := []
  deriving Repr, DecidableEq, Inhabited

namespace PendingChanges

/-- The changes that lists of names amount to; additions are put in order. -/
def ofLists (additions removals automatedRemovals : List String) : PendingChanges :=
  ⟨additions.mergeSort, removals, automatedRemovals⟩

/-- Whether a name is to be taken off the list. -/
def removes (c : PendingChanges) (name : String) : Bool :=
  c.removals.contains name || c.automatedRemovals.contains name

/-- Keeps the changes that still hold: additions that may join the list for a year, and automated
removals that may not stay on it even for the shorter term. What operators asked for is not checked
again. -/
def recheck (c : PendingChanges) (s : Scanner) : PendingChanges where
  additions := kept (fun d => .ofBool !(s.eligible d .bulk1Year).hasErrors) c.additions
  removals := c.removals
  automatedRemovals := kept (fun d => .ofBool (s.eligible d .bulk18Weeks).hasErrors)
    c.automatedRemovals

end PendingChanges

end HstsPreload
