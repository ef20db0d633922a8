import HstsPreload.Pending.Fault
import HstsPreload.Text.Blank

/-!
Getting the pending changes from a running service.
-/

namespace HstsPreload.PendingChanges

open HstsPreload.Json HstsPreload.Text

/-- Where a path is found under the address of a service, whose slashes at the end do not count. -/
def endpoint (base path : String) : String :=
  .ofList (dropEndWhile (· = '/') base.toList ++ '/' :: path.toList)

def fetchList {α : Type} (net : Web.Network) (base path what : String) (read : Reader α) :
    Except PendingFault (List α) := do
  let reply ← (Web.fetch net (endpoint base path)).mapError (.fetch what)
  (readAll (readList read) reply.text).mapError (.decode what)

def additionsTitle : String := "pending additions"

/-- Fetches the three lists; the first that fails is reported. -/
def fetch (net : Web.Network) (base : String) : Except PendingFault PendingChanges := do
  let additions ← fetchList net base "pending" additionsTitle Entry.read
  let removals ← fetchList net base "pending-removal" "pending removals" readString
  let automated ← fetchList net base "pending-automated-removal" "pending automated removals"
    readString
  return .ofLists (additions.map Entry.name) removals automated

end HstsPreload.PendingChanges
