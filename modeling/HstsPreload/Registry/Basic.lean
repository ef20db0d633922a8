import HstsPreload.DomainName
import HstsPreload.ListSource
import HstsPreload.Plan
import HstsPreload.Registry.Writer
import HstsPreload.Scanner
import HstsPreload.StatusView

/-!
The registry: submissions, removal requests and questions about domains, over a store with a cache in
front of it. Each operation is a program; what the registry consults besides the store is a value.
-/

namespace HstsPreload

/-- What a registry consults besides its store. -/
structure Registry where
  scanner : Scanner
  /-- The snapshot of the list, as it is fetched when it is asked for. -/
  list : Except ListFault PreloadList
  /-- The time of a request. -/
  now : Instant
  debugEndpoints : Bool := false
  /-- How several records are written. -/
  put : List Record → Program Writer.Report := Writer.putAll

/-- Why a request is not answered. -/
inductive RegistryFault where
  | lookup (fault : StoreFault)
  | status (fault : StoreFault)
  | list (what : String) (fault : StoreFault)
  | allStates (fault : StoreFault)
  deriving Repr, DecidableEq

def RegistryFault.message : RegistryFault → String
  | .lookup fault => s!"could not get current domain status. ({fault.message})"
  | .status fault => s!"could not retrieve status. ({fault.message})"
  | .list what fault => s!"could not retrieve {what} list. ({fault.message})"
  | .allStates fault => s!"could not get domain states. ({fault.message})"

namespace Registry

/-- The record of a domain, through the cache. -/
def cachedRecord (domain : String) : Program (Except StoreFault Record) := do
  match ← Program.access (.cached domain) with
  | some r => return .ok r
  | none =>
    let generation ← Program.access .generation
    match ← Program.access (.load domain) with
    | .error fault => return .error fault
    | .ok r =>
      Program.access (.keep generation r)
      return .ok r

/-- The records of a status, through the cache. -/
def cachedList (s : Status) : Program (Except StoreFault (List Record)) := do
  match ← Program.access (.cachedList s) with
  | some rs => return .ok rs
  | none =>
    let generation ← Program.access .generation
    match ← Program.access (.loadList s) with
    | .error fault => return .error fault
    | .ok rs =>
      Program.access (.keepList generation s rs)
      return .ok rs

/-- Writes one record and empties the cache, whether or not the write succeeds. -/
def persist (reg : Registry) (r : Record) : Program (Except StoreFault Unit) := do
  let report ← reg.put [r]
  Program.access .invalidate
  return report.outcome

def preloadable (reg : Registry) (domain : String) : Issues :=
  reg.scanner.preloadable domain

def saveFailed : Issue :=
  ⟨"internal.server.preload.save_failed", "Internal error", "Unable to save to the pending list."⟩

def removalFailed : Issue :=
  ⟨"internal.server.remove.removal_failed", "Internal error",
    "Unable to remove from the preload list."⟩

def setPreloadedFailed : Issue :=
  ⟨"internal.server.debug.set_preloaded_failed", "Internal error",
    "Unable to save to set as preloaded."⟩

/-- Submits a domain. If it is not eligible nothing is written, and the findings tell also what is
known of it; otherwise it becomes pending unless its record stands in the way. -/
def submit (reg : Registry) (domain : String) : Program (Except RegistryFault Issues) := do
  let issues := reg.scanner.preloadable domain
  if issues.hasErrors then
    match ← Program.access (.load domain) with
    | .error _ => return .ok issues
    | .ok r =>
      match r.onSubmit false reg.now with
      | .alreadyListed reason => return .ok (issues.pushWarning reason)
      | _ => return .ok issues
  else
    match ← Program.access (.load domain) with
    | .error fault => return .error (.lookup fault)
    | .ok r =>
      match r.onSubmit true reg.now with
      | .accept next =>
        match ← reg.persist next with
        | .ok () => return .ok issues
        | .error _ => return .ok (issues.pushError saveFailed)
      | .alreadyListed reason => return .ok (issues.pushWarning reason)
      | .reject => return .ok issues

def remove (reg : Registry) (domain : String) : Program (Except RegistryFault Issues) := do
  let issues := reg.scanner.removable domain
  if issues.hasErrors then return .ok issues
  else
    match ← Program.access (.load domain) with
    | .error fault => return .error (.lookup fault)
    | .ok r =>
      match r.onRemove reg.now with
      | .accept next =>
        match ← reg.persist next with
        | .ok () => return .ok issues
        | .error _ => return .ok (issues.pushError removalFailed)
      | .unneeded reason => return .ok (issues.pushWarning reason)
      | .refuse reason => return .ok (issues.pushError reason)

/-- The first of the names whose record is preloaded with its subdomains; one that cannot be read is
passed over. -/
def coveringAmong : List String → Program (Option String)
  | [] => return none
  | candidate :: more => do
    match ← cachedRecord candidate with
    | .ok r =>
      if r.status = .preloaded ∧ r.includeSubDomains then return some candidate
      else coveringAmong more
    | .error _ => coveringAmong more

/-- Tells about a domain. One of which nothing is known is preloaded if the nearest domain above it
that is preloaded with its subdomains covers it. -/
def status (domain : String) : Program (Except RegistryFault StatusView) := do
  match ← cachedRecord domain with
  | .error fault => return .error (.status fault)
  | .ok r =>
    let r := { r with name := domain }
    if r.status = .unknown then
      match ← coveringAmong (DomainName.ancestors domain) with
      | some ancestor => return .ok ⟨{ r with status := .preloaded }, r.isBulk, some ancestor⟩
      | none => return .ok ⟨r, r.isBulk, none⟩
    else if r.status = .preloaded then return .ok ⟨r, r.isBulk, some domain⟩
    else return .ok ⟨r, r.isBulk, none⟩

/-- Tells the operator of a domain that another one holds it on the list. -/
def coveredBy (domain ancestor : String) : Issue :=
  if (DomainName.parent? ancestor).isSome then
    ⟨"server.removable.subdomain", "Domain is subdomain of preloaded domain",
      s!"This domain is a subdomain of {ancestor}, which is on the preload list. "
        ++ s!"To remove the HSTS policy for {domain}, the domain {ancestor} would need to be "
        ++ "removed from the preload list."⟩
  else
    ⟨"server.removable.preloaded_tld", "Domain is registered under a preloaded TLD",
      s!"The entire TLD {ancestor} is preloaded for HSTS and individual domain names cannot be "
        ++ "removed."⟩

def removalProtected : Issue :=
  ⟨"server.removable.protected", "Domain protected",
    "This domain is currently protected against removal through this service. "
      ++ "Please contact the list maintainers if you want to remove it from the preload list."⟩

def removable (reg : Registry) (domain : String) : Program (Except RegistryFault Issues) := do
  match ← status domain with
  | .error fault => return .error fault
  | .ok view =>
    let covering := view.preloadedDomain.filter fun d =>
      view.record.status = .preloaded && d != domain
    match covering with
    | some ancestor => return .ok (.ofError (coveredBy domain ancestor))
    | none =>
      let issues := reg.scanner.removable domain
      if view.record.isProtected then return .ok (issues.pushError removalProtected)
      else return .ok issues

def pending : Program (Except RegistryFault (List Record)) := do
  return (← cachedList .pending).mapError (.list "pending")

def cachedNames (s : Status) (what : String) : Program (Except RegistryFault (List String)) := do
  match ← cachedList s with
  | .error fault => return .error (.list what fault)
  | .ok rs => return .ok (rs.map Record.name)

def pendingRemoval : Program (Except RegistryFault (List String)) :=
  cachedNames .pendingRemoval "pending removal"

/-- The names that no longer qualify. -/
def pendingAutomatedRemoval : Program (Except RegistryFault (List String)) :=
  cachedNames .pendingAutomatedRemoval "pending automated removal"

def allStates : Program (Except RegistryFault (List Record)) := do
  return (← Program.access .loadAll).mapError .allStates

def checkConnection : Program (Except StoreFault Unit) :=
  Program.access .check

/-- Makes a domain preloaded without asking anyone. -/
def setPreloaded (reg : Registry) (domain : String) : Program Issues := do
  match ← reg.persist { name := domain, status := .preloaded } with
  | .ok () => return {}
  | .error _ => return .ofError setPreloadedFailed

end Registry

end HstsPreload
