import HstsPreload.Issue
import HstsPreload.Record
import HstsPreload.Time.Calendar

/-!
What becomes of a record when its operator asks for something or when the list is compared with it.
-/

namespace HstsPreload

/-- What a submission comes to. -/
inductive SubmitDecision where
  | accept (next : Record)
  /-- Nothing changes; the issue says why. -/
  | alreadyListed (reason : Issue)
  /-- Nothing changes; the eligibility errors say why. -/
  | reject
  deriving Repr, DecidableEq

/-- What a removal request comes to. -/
inductive RemovalDecision where
  | accept (next : Record)
  /-- Nothing changes, and nothing needs to. -/
  | unneeded (reason : Issue)
  | refuse (reason : Issue)
  deriving Repr, DecidableEq

/-- What the list says about a record. -/
inductive ReconcileDecision where
  | unchanged
  | transition (next : Record)
  deriving Repr, DecidableEq

namespace Record

def removalMessage : String :=
  "Removal requested by the domain operator."

/-- The message of a record whose removal was asked for before it was ever on the list. -/
def selfRejectedMessage : String :=
  "Domain was added and removed without being preloaded."

/-- Tells a submitter when the domain was submitted before. -/
def alreadyPending (r : Record) : Issue :=
  let date := match r.submissionDate with
    | some t => t.longDate
    | none => "an unknown date"
  ⟨"server.preload.already_pending", "Domain is already pending",
    s!"{r.name} is already pending. It was submitted on {date}."⟩

def alreadyPreloaded : Issue :=
  ⟨"server.preload.already_preloaded", "Domain is already preloaded",
    "This domain is already preloaded."⟩

def alreadyLeaving (status : Status) : Issue :=
  ⟨"server.preload.already_pending", "Domain is pending removal",
    s!"This domain is currently {status.text}. It cannot be resubmitted until that finishes."⟩

/-- A record after an accepted submission. -/
def submitted (r : Record) (now : Instant) : Record where
  name := r.name
  status := .pending
  submissionDate := some now
  includeSubDomains := true
  policy := .bulk1Year

/-- Decides a submission: a domain that is not on its way onto or off the list may join if it is
eligible. -/
def onSubmit (r : Record) (eligible : Bool) (now : Instant) : SubmitDecision :=
  match r.status with
  | .pending => .alreadyListed r.alreadyPending
  | .preloaded => .alreadyListed alreadyPreloaded
  | .pendingRemoval | .pendingAutomatedRemoval => .alreadyListed (alreadyLeaving r.status)
  | .unknown | .removed | .rejected => if eligible then .accept (r.submitted now) else .reject

/-- A record after an accepted removal request. -/
def leaving (r : Record) (now : Instant) : Record where
  name := r.name
  status := .pendingRemoval
  message := removalMessage
  submissionDate := some now
  policy := r.policy

/-- Tells an operator that the list maintainers hold on to the domain. -/
def protectedFromRemoval : Issue :=
  ⟨"server.remove.protected", "Domain protected",
    "This domain is currently protected against removal through this service. "
      ++ "Please contact the list maintainers if you want to remove it from the preload list."⟩

/-- Decides a removal request: a domain that is listed or about to be may leave unless its policy
protects it. -/
def onRemove (r : Record) (now : Instant) : RemovalDecision :=
  match r.status with
  | .preloaded | .pending =>
    if r.isProtected then .refuse protectedFromRemoval else .accept (r.leaving now)
  | .pendingRemoval | .pendingAutomatedRemoval =>
    .unneeded ⟨"server.remove.already_pending_removal", "Already pending removal",
      "Domain is already pending removal."⟩
  | .removed =>
    .unneeded ⟨"server.remove.already_removed", "Already removed",
      "Domain has already been removed."⟩
  | .unknown | .rejected =>
    .unneeded ⟨"server.remove.not_preloaded", "Not preloaded",
      "The domain is not part of the preload list, so it cannot be removed."⟩

def listed (r : Record) (e : Entry) : Record where
  name := r.name
  status := .preloaded
  includeSubDomains := e.includeSubdomains
  policy := e.policy

/-- Compares a record with the entry of its name, if the list has one. A domain on the list is
preloaded unless it is leaving; one that is gone from the list has left it. -/
def onReconcile (r : Record) (entry : Option Entry) : ReconcileDecision :=
  match r.status, entry with
  | .unknown, some e | .pending, some e | .removed, some e | .rejected, some e =>
    .transition (r.listed e)
  | .preloaded, none => .transition { r with status := .removed, message := "" }
  | .pendingRemoval, none =>
    .transition { r with status := .rejected, message := selfRejectedMessage }
  | _, _ => .unchanged

end Record

end HstsPreload
