import HstsPreload.Registry.Basic

/-!
Updates: the records are brought in line with the list. A plan is made from the snapshot and the
records as they are read; then it is written, with a report that closes with one line on how it went.
-/

namespace HstsPreload

/-- Why an update does not go through. -/
inductive UpdateFault where
  | list (fault : ListFault)
  | read (what : String) (fault : StoreFault)
  /-- The flag tells whether any progress was reported before. -/
  | write (progressWritten : Bool) (fault : StoreFault)
  deriving Repr, DecidableEq

def UpdateFault.message : UpdateFault → String
  | .list fault => s!"could not retrieve latest preload list. ({fault.message})"
  | .read what fault =>
    s!"could not retrieve domain names previously marked as {what}. ({fault.message})"
  | .write _ fault => s!"datastore update failed. ({fault.message})"

/-- The report on an update that was written, or not, and how many records were. -/
structure UpdateReport where
  text : String
  outcome : Except UpdateFault Nat

namespace Plan

/-- The last line of a report. -/
def closing (p : Plan) : Except StoreFault Unit → String
  | .ok () => s!"Success. {p.updates.length} domain states updated.\n"
  | .error fault => s!"Internal error: {(UpdateFault.write true fault).message}\n"

/-- The report on what a writer told. Where it failed without having told anything, the last line is
left to whoever answers the request. -/
def report (p : Plan) (w : Writer.Report) : UpdateReport :=
  match w.outcome with
  | .ok () => ⟨w.text ++ p.closing w.outcome, .ok p.updates.length⟩
  | .error fault =>
    let told := !w.progress.isEmpty
    ⟨if told then w.text ++ p.closing w.outcome else "", .error (.write told fault)⟩

end Plan

namespace Registry

/-- Makes a plan: the list first, then the records it is compared with. -/
def planUpdate (reg : Registry) : Program (Except UpdateFault Plan) := do
  match reg.list with
  | .error fault => return .error (.list fault)
  | .ok list =>
    match ← Program.access (.loadList .preloaded) with
    | .error fault => return .error (.read "preloaded" fault)
    | .ok preloaded =>
      match ← Program.access (.loadList .pendingRemoval) with
      | .error fault => return .error (.read "pending removal" fault)
      | .ok pendingRemoval =>
        match ← Program.access (.loadList .pendingAutomatedRemoval) with
        | .error fault => return .error (.read "pending automated removal" fault)
        | .ok automated => return .ok (.build list preloaded pendingRemoval automated)

/-- Writes a plan and empties the cache, whether or not all writes succeed. -/
def applyPlan (reg : Registry) (p : Plan) : Program UpdateReport := do
  let w ← reg.put p.updates
  Program.access .invalidate
  return p.report w

/-- Makes a plan and writes it; the report starts with the summary of the plan. -/
def update (reg : Registry) : Program UpdateReport := do
  match ← reg.planUpdate with
  | .error fault => return ⟨"", .error fault⟩
  | .ok p =>
    let r ← reg.applyPlan p
    return ⟨p.summary ++ r.text, r.outcome⟩

end Registry

end HstsPreload
