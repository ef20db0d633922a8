import HstsPreload.Registry.Update
import HstsPreload.Web.Message

/-!
The registry over HTTP. Each path takes one method; questions are asked with `GET` or `HEAD`, and
changes are made with `POST`, except for updates. A refused method is told in the registry's own
words; that `HEAD` is answered as `GET` without the body, that `Allow` is set and that an unknown path
is answered with a bare 404 is what axum documents.
-/

namespace HstsPreload

open HstsPreload.Web HstsPreload.Json

/-- What the registry can be asked over HTTP. -/
inductive Route where
  | preloadable
  | removable
  | status
  | submit
  | remove
  | pending
  | pendingRemoval
  | pendingAutomatedRemoval
  | update
  | allStates
  | setPreloaded
  deriving Repr, DecidableEq

namespace Route

/-- The route of a path; two of them exist for debugging only. -/
def ofPath? (debugEndpoints : Bool) (path : String) : Option Route :=
  match path with
  | "/preloadable" => some .preloadable
  | "/removable" => some .removable
  | "/status" => some .status
  | "/submit" => some .submit
  | "/remove" => some .remove
  | "/pending" => some .pending
  | "/pending-removal" => some .pendingRemoval
  | "/pending-automated-removal" => some .pendingAutomatedRemoval
  | "/update" => some .update
  | "/debug/all-states" => if debugEndpoints then some .allStates else none
  | "/debug/set-preloaded" => if debugEndpoints then some .setPreloaded else none
  | _ => none

def isPost : Route → Bool
  | .submit | .remove | .setPreloaded => true
  | _ => false

/-- The response to another method. -/
def wrongMethod (r : Route) : Response :=
  if r.isPost then
    { Response.text 405 "Wrong method. Requires POST.\n" with allow := some "POST" }
  else { Response.text 405 "Wrong method. Requires GET.\n" with allow := some "GET,HEAD" }

end Route

namespace Registry

def jsonType : String := "application/json; charset=utf-8"

/-- A response of indented JSON. -/
def jsonResponse (v : Value) : Response :=
  { status := 200, contentType := some jsonType, body := v.renderIndented ++ "\n" }

/-- A list of which each item is on a line of its own, with commas after all but the last. -/
def linesBody (items : List String) : List String :=
  match items with
  | [] => []
  | [last] => ["    " ++ last ++ "\n"]
  | item :: more => ("    " ++ item ++ ",\n") :: linesBody more

/-- A response of JSON with an item on each line, as list maintainers paste it. -/
def linesResponse (items : List String) : Response :=
  { status := 200, contentType := some jsonType,
    body := "[\n" ++ String.join (linesBody items) ++ "]\n" }

def quotedName (name : String) : String :=
  .ofList (stringText name)

/-- A pending domain as a line of the list. -/
def pendingLine (r : Record) : String :=
  "\x7b \"name\": " ++ quotedName r.name
    ++ ", \"policy\": \"bulk-1-year\", \"mode\": \"force-https\", \"include_subdomains\": true \x7d"

/-- The domain a request is about, or the response that it names none. -/
def domainOf (req : Request) : Except Response String :=
  match req.queryValues "domain" with
  | _ :: _ :: _ =>
    .error (.text 400 "Failed to deserialize query string: duplicate field `domain`")
  | [] => .error (.text 400 "Domain not specified.\n")
  | [raw] =>
    if raw = "" then .error (.text 400 "Domain not specified.\n")
    else
      match DomainName.normalize raw with
      | .ok domain => .ok domain
      | .error fault => .error (.text 400 s!"Invalid domain. ({fault.message})\n")

/-- The response to an answer with findings. -/
def issuesResponse : Except RegistryFault Issues → Response
  | .ok issues => jsonResponse issues.toJson
  | .error fault => .internalError fault.message

/-- The response to an answer with lines. -/
def listResponse {α : Type} (line : α → String) : Except RegistryFault (List α) → Response
  | .ok items => linesResponse (items.map line)
  | .error fault => .internalError fault.message

/-- Answers a request about the domain it names. -/
def aboutDomain (req : Request) (answer : String → Program Response) : Program Response :=
  match domainOf req with
  | .ok domain => answer domain
  | .error response => return response

def respondStatus (domain : String) : Program Response := do
  match ← status domain with
  | .ok view => return jsonResponse view.toJson
  | .error fault => return .internalError fault.message

def respondAllStates : Program Response := do
  match ← allStates with
  | .ok rs => return jsonResponse (.list (rs.map Record.toJson))
  | .error fault => return .internalError fault.message

/-- Brings the records in line with the list and tells how it went. Once there is a plan the response
counts as a success, so a failure to write is told in the body. -/
def respondUpdate (reg : Registry) : Program Response := do
  match ← reg.planUpdate with
  | .error fault => return .internalError fault.message
  | .ok p =>
    let r ← reg.applyPlan p
    let closing := match r.outcome with
      | .error (.write false fault) => p.closing (.error fault)
      | _ => ""
    return .text 200 (p.summary ++ r.text ++ closing)

def respondTo (reg : Registry) (req : Request) : Route → Program Response
  | .preloadable =>
    aboutDomain req fun domain => return jsonResponse (reg.preloadable domain).toJson
  | .removable => aboutDomain req fun domain => do return issuesResponse (← reg.removable domain)
  | .status => aboutDomain req respondStatus
  | .submit => aboutDomain req fun domain => do return issuesResponse (← reg.submit domain)
  | .remove => aboutDomain req fun domain => do return issuesResponse (← reg.remove domain)
  | .pending => do return listResponse pendingLine (← pending)
  | .pendingRemoval => do return listResponse quotedName (← pendingRemoval)
  | .pendingAutomatedRemoval => do return listResponse quotedName (← pendingAutomatedRemoval)
  | .update => reg.respondUpdate
  | .allStates => respondAllStates
  | .setPreloaded =>
    aboutDomain req fun domain => do return jsonResponse (← reg.setPreloaded domain).toJson

def respond (reg : Registry) (req : Request) : Program Response :=
  match Route.ofPath? reg.debugEndpoints req.path with
  | none => return { status := 404 }
  | some r =>
    if r.isPost then if req.method = "POST" then reg.respondTo req r else return r.wrongMethod
    else if req.method = "GET" then reg.respondTo req r
    else if req.method = "HEAD" then do return (← reg.respondTo req r).withoutBody
    else return r.wrongMethod

end Registry

end HstsPreload
