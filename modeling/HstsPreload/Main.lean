import HstsPreload.CommandLine.Run

/-!
The program. It has no network of its own, so a service ends when it starts to listen, and an update
ends when it asks for the pending changes.
-/

namespace HstsPreload.CommandLine

/-- The variables of the environment that are looked at. -/
def consultedVariables : List String :=
  ["APP_ENV", "APP_HOST", "APP_PORT", "APP_LOG_LEVEL", "PRELOAD_DATABASE_PATH",
    "PRELOAD_CACHE_SECONDS", "PRELOAD_LIST_URL", Config.debugVariable, "PRELOAD_SERVICE_URL",
    "RUST_LOG"]

/-- The content of the file that an update is about. -/
def readListFile (path : String) : IO FileContent := do
  try
    return some (← IO.FS.readBinFile path).toList
  catch _ => return none

/-- The surroundings of this process for what the arguments ask. -/
def surroundings (program : String) (arguments : List String) : IO Surroundings := do
  let values ← consultedVariables.filterMapM fun name => do
    return (← IO.getEnv name).map fun value => (name, value)
  let content ← match CommandLine.read program arguments with
    | .ok (.updateList o) => readListFile o.listPath
    | _ => pure none
  return .isolated program (fun name => values.lookup name) fun _ => content

/-- Writes out what a run leaves behind. -/
def Ending.carryOut (e : Ending) : IO UInt32 := do
  if let some (path, some bytes) := e.written then
    IO.FS.writeBinFile path ⟨bytes.toArray⟩
  IO.print e.out
  IO.eprint e.err
  return e.status.toUInt32

end HstsPreload.CommandLine

open HstsPreload.CommandLine

def main (arguments : List String) : IO UInt32 := do
  (run (← surroundings "hsts-preload" arguments) arguments).carryOut
