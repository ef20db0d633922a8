import HstsPreload.CommandLine.Order
import HstsPreload.Failure
import HstsPreload.Pending.Fetch
import HstsPreload.Pending.ListFile
import HstsPreload.SiteScanner

/-!
Carrying out what the arguments ask for. What is around the program is a value, and so is what it
leaves behind.
-/

namespace HstsPreload.CommandLine

/-- What is around the program. -/
structure Surroundings where
  /-- The name the program was started by. -/
  program : String
  /-- The variables of the environment. -/
  given : String → Option String
  network : Web.Network
  /-- What each file holds. -/
  file : String → FileContent
  /-- Opens the database at a path, unless there is a reason against it. -/
  openDatabase : String → Except String Unit
  /-- Starts to listen, unless there is a reason against it. -/
  listen : Host.Endpoint → Except String Unit

/-- What each address is refused for where there is no network. -/
def noSuchAddress : String := "Cannot assign requested address (os error 99)"

/-- Surroundings without a network: nothing answers, and there is no address to listen on. -/
def Surroundings.isolated (program : String) (given : String → Option String)
    (file : String → FileContent) : Surroundings where
  program
  given
  network := .unreachable
  file
  openDatabase := fun _ => .ok ()
  listen := fun _ => .error noSuchAddress

/-- What the program leaves behind. -/
structure Ending where
  status : Nat := 0
  out : String := ""
  err : String := ""
  /-- The file it has written, and what that holds now. -/
  written : Option (String × FileContent) := none
  deriving Repr, DecidableEq

/-- The settings with what the arguments put in their place. -/
def ServeOptions.apply (o : ServeOptions) (c : Config) : Config :=
  { c with
    host := o.host.getD c.host
    port := o.port.getD c.port
    inMemory := c.inMemory || o.inMemory }

def prepareLog (s : Surroundings) (c : Config) : Except Failure Log.Filter :=
  (Log.choose (s.given "RUST_LOG") c.logLevel).mapError .logging

/-- Brings the service up to where it listens. -/
def serve (s : Surroundings) (o : ServeOptions) : Except Failure Host.Endpoint := do
  let config := o.apply (← (Config.ofVariables s.given).mapError .config)
  let _ ← prepareLog s config
  if !config.inMemory then
    (s.openDatabase config.databasePath).mapError fun detail => .store (.backend detail)
  let endpoint ← config.endpoint.mapError .config
  (s.listen endpoint).mapError .io
  return endpoint

/-- Rolls the pending changes that still hold into the file of the list. -/
def updateList (s : Surroundings) (o : UpdateOptions) :
    Except Failure (ListText.Updated × FileContent) := do
  let config ← (Config.ofVariables s.given).mapError .config
  let _ ← prepareLog s config
  let changes ← (PendingChanges.fetch s.network (o.serviceUrl.getD config.serviceUrl)).mapError
    .pending
  match ListText.updateFile (s.file o.listPath) (changes.recheck (.ofNetwork s.network)) with
  | (.ok updated, file) => return (updated, file)
  | (.error fault, _) => .error (.pending fault)

def Ending.ofFailure (f : Failure) : Ending :=
  { status := 1, err := s!"application error: {f.message}\n" }

def Ending.ofUsageFault (f : UsageFault) : Ending :=
  { status := 2, err := s!"error: {f.message}\n\nFor more information, try '--help'.\n" }

def run (s : Surroundings) (arguments : List String) : Ending :=
  match read s.program arguments with
  | .error fault => .ofUsageFault fault
  | .ok (.tell text) => { out := text }
  | .ok (.serve o) =>
    match serve s o with
    | .ok _ => {}
    | .error f => .ofFailure f
  | .ok (.updateList o) =>
    match updateList s o with
    | .ok (updated, file) =>
      { out := ListText.report updated.duplicates, written := some (o.listPath, file) }
    | .error f => .ofFailure f

end HstsPreload.CommandLine
