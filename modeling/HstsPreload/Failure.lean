import HstsPreload.Config
import HstsPreload.Log.Filter
import HstsPreload.Pending.Fault
import HstsPreload.Store.Basic
import HstsPreload.Web.Message

/-!
Why the program gives up: one kind of failure for each part of it.
-/

namespace HstsPreload

inductive Failure where
  | config (fault : ConfigFault)
  | logging (fault : Log.Fault)
  | io (detail : String)
  | server (detail : String)
  | store (fault : StoreFault)
  | http (fault : Web.Fault)
  | list (fault : ListFault)
  | pending (fault : PendingFault)
  deriving Repr, DecidableEq

namespace Failure

/-- The wording of what went wrong in the part that failed. -/
def source : Failure → String
  | .config fault => fault.message
  | .logging fault => fault.message
  | .io detail => detail
  | .server detail => detail
  | .store fault => fault.message
  | .http fault => fault.message
  | .list fault => fault.message
  | .pending fault => fault.message

/-- The name of the part that failed. -/
def part : Failure → String
  | .config _ => "configuration"
  | .logging _ => "telemetry"
  | .io _ => "io"
  | .server _ => "server"
  | .store _ => "store"
  | .http _ => "http client"
  | .list _ => "preload list"
  | .pending _ => "update-list"

def message (f : Failure) : String :=
  s!"{f.part} error: {f.source}"

/-- The wording of what lies behind what went wrong. -/
def deeperSource? : Failure → Option String
  | .config fault => fault.source?
  | .logging fault => fault.source?
  | .io _ => none
  | .server detail => some detail
  | .store _ => none
  | .http fault => fault.source?
  | .list fault => some fault.source
  | .pending fault => some fault.source

def response (f : Failure) : Web.Response :=
  .internalError f.message

end Failure

end HstsPreload
