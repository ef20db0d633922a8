import HstsPreload.Registry.Routes

/-!
The whole service over HTTP: the registry under a common path, how the service itself is doing, and
the transport security policy on every response to a request that came over HTTPS.

The paths, the words and the policy are the service's own. The rest follows what axum documents of
its routers. Routes that are nested under a path are matched against what follows it, and the path
alone is none of them (`registryPath?`). A path without a route is answered with 404 and no body. A
route for `GET` answers `HEAD` with the same response less its body; any other method is answered
with 405, and `Allow` names the methods that are taken (`respondInside`). What is layered over the
routes sees every response, those of unknown paths and refused methods too (`respond`).
-/

namespace HstsPreload.Service

open HstsPreload.Web HstsPreload.Json

/-- The path under which the registry is found. -/
def basePath : List Char :=
  "/api/v2".toList

/-- The policy the service announces for itself. -/
def ownPolicy : String :=
  "max-age=31536000; includeSubDomains; preload"

/-- A response that tells one word. -/
def statusResponse (status : Nat) (word : String) : Response :=
  { status, contentType := some "application/json",
    body := (Value.object [("status", .string word)]).render }

/-- What is told about the service itself. -/
def ownResponse? (ready : Bool) (metrics : String) (path : String) : Option Response :=
  match path with
  | "/health" => some (statusResponse 200 "ok")
  | "/ready" =>
    some (if ready then statusResponse 200 "ready" else statusResponse 503 "initializing")
  | "/metrics" =>
    some { status := 200, contentType := some "text/plain; version=0.0.4", body := metrics }
  | _ => none

/-- The path within the registry: what follows the common path, if that is a longer path. -/
def registryPath? (path : String) : Option String :=
  let cs := path.toList
  if cs.take basePath.length = basePath then
    match cs.drop basePath.length with
    | '/' :: rest => if rest = [] then none else some (.ofList ('/' :: rest))
    | _ => none
  else none

/-- Answers a request apart from the policy of the service. -/
def respondInside (reg : Registry) (ready : Bool) (metrics : String) (req : Request) :
    Program Response :=
  match ownResponse? ready metrics req.path with
  | some response =>
    if req.method = "GET" then return response
    else if req.method = "HEAD" then return response.withoutBody
    else return { status := 405, allow := some "GET,HEAD" }
  | none =>
    match registryPath? req.path with
    | some path => reg.respond { req with path }
    | none => return { status := 404 }

/-- Whether a request came over HTTPS, as the proxy in front of the service tells. -/
def isSecure (req : Request) : Bool :=
  req.header? "x-forwarded-proto" == some "https"

def respond (reg : Registry) (ready : Bool) (metrics : String) (req : Request) :
    Program Response := do
  let response ← respondInside reg ready metrics req
  if isSecure req then return { response with transportSecurity := some ownPolicy }
  else return response

end HstsPreload.Service
