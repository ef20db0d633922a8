import HstsPreload.Pending.Edit
import HstsPreload.Web.Network

/-!
Why pending changes do not make it into the list.
-/

namespace HstsPreload

/-- Why a file cannot be used. -/
inductive FileFault where
  | missing
  | notText
  | other (detail : String)
  deriving Repr, DecidableEq

def FileFault.message : FileFault → String
  | .missing => "No such file or directory (os error 2)"
  | .notText => "stream did not contain valid UTF-8"
  | .other detail => detail

/-- Why pending changes are not made. -/
inductive PendingFault where
  /-- One of the lists of changes does not arrive. -/
  | fetch (what : String) (fault : Web.Fault)
  /-- One of the lists of changes cannot be read. -/
  | decode (what : String) (error : Json.Error)
  | entry (fault : ListText.EntryFault)
  | file (fault : FileFault)
  deriving Repr, DecidableEq

def PendingFault.message : PendingFault → String
  | .fetch what fault => s!"fetching {what} failed: {fault.message}"
  | .decode what error => s!"decoding {what} failed: {error.message}"
  | .entry fault => fault.message
  | .file fault => s!"list file io failed: {fault.message}"

def PendingFault.source : PendingFault → String
  | .fetch _ fault => fault.message
  | .decode _ error => error.message
  | .entry fault => fault.error.message
  | .file fault => fault.message

end HstsPreload
