import HstsPreload.Decision
import HstsPreload.PreloadList

/-!
Plans: what has to be written so that the records agree with a snapshot of the list.
-/

namespace HstsPreload

/-- The records to write, by why they change, and two counts for the report. -/
structure Plan where
  listEntries : Nat := 0
  preloadedEntries : Nat := 0
  added : List Record := []
  removed : List Record := []
  selfRejected : List Record := []
  deriving Repr, DecidableEq, Inhabited

namespace Plan

/-- The record that a comparison asks to write. -/
def next? : ReconcileDecision → Option Record
  | .unchanged => none
  | .transition r => some r

/-- Compares the list with the records that are preloaded or pending removal of either kind. -/
def build (list : PreloadList) (preloaded pendingRemoval pendingAutomatedRemoval : List Record) :
    Plan :=
  let tracked : Std.ExtTreeSet String :=
    .ofList ((preloaded ++ pendingRemoval ++ pendingAutomatedRemoval).map Record.name)
  let hsts := list.hstsEntries
  let index := list.hstsIndex
  let against (r : Record) : Option Record := next? (r.onReconcile index[r.name]?)
  { listEntries := list.entries.length
    preloadedEntries := hsts.length
    added := (hsts.filter fun e => e.name ∉ tracked).filterMap fun e =>
      next? ((Record.unseen e.name).onReconcile (some e))
    removed := preloaded.filterMap against
    selfRejected := pendingRemoval.filterMap against }

/-- The records in the order in which they are written. -/
def updates (p : Plan) : List Record :=
  p.added ++ p.removed ++ p.selfRejected

def totalUpdates (p : Plan) : Nat :=
  p.added.length + p.removed.length + p.selfRejected.length

/-- The report that comes before writing. -/
def summary (p : Plan) : String :=
  s!"The preload list has {p.listEntries} entries.\n"
    ++ s!"- # of preloaded HSTS entries: {p.preloadedEntries}\n"
    ++ s!"- # to be added in this update: {p.added.length}\n"
    ++ s!"- # to be removed this update: {p.removed.length}\n"
    ++ s!"- # to be self-rejected this update: {p.selfRejected.length}\n"

end Plan

end HstsPreload
