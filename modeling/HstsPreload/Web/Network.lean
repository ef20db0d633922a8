import HstsPreload.Web.Url

/-!
Asking for URLs. The network is a function from URLs to replies; some URLs are not usable in the first
place, some requests are never answered, and some replies report a failure.
-/

namespace HstsPreload.Web

structure Reply where
  status : Nat := 200
  /-- The values of its security headers, in order, as bytes. -/
  securityHeaders : List (List UInt8) := []
  body : List UInt8 := []

/-- The network: what each URL replies, if anything. -/
abbrev Network : Type := String → Option Reply

def Network.unreachable : Network := fun _ => none

/-- Why nothing came of a request. -/
inductive Fault where
  | badUrl (cause : Url.Fault)
  | badScheme (url : String)
  | unreachable (url : String)
  | status (code : Nat) (url : String)
  deriving Repr, DecidableEq

/-- The words that go with the more common codes of failure. -/
def reason (code : Nat) : String :=
  match code with
  | 400 => "Bad Request"
  | 401 => "Unauthorized"
  | 402 => "Payment Required"
  | 403 => "Forbidden"
  | 404 => "Not Found"
  | 405 => "Method Not Allowed"
  | 406 => "Not Acceptable"
  | 408 => "Request Timeout"
  | 409 => "Conflict"
  | 410 => "Gone"
  | 418 => "I'm a teapot"
  | 422 => "Unprocessable Entity"
  | 429 => "Too Many Requests"
  | 500 => "Internal Server Error"
  | 501 => "Not Implemented"
  | 502 => "Bad Gateway"
  | 503 => "Service Unavailable"
  | 504 => "Gateway Timeout"
  | _ => "<unknown status code>"

def Fault.message : Fault → String
  | .badUrl _ => "builder error"
  | .badScheme url => s!"builder error for url ({url})"
  | .unreachable url => s!"error sending request for url ({url})"
  | .status code url =>
    let side := if code < 500 then "client" else "server"
    s!"HTTP status {side} error ({code} {reason code}) for url ({url})"

def Fault.source? : Fault → Option String
  | .badUrl cause => some cause.message
  | .badScheme _ => some "URL scheme is not allowed"
  | .unreachable _ => some "client error (Connect)"
  | .status _ _ => none

def send (net : Network) (text : String) : Except Fault Reply :=
  match Url.parse text with
  | .error cause => .error (.badUrl cause)
  | .ok url =>
    if !url.hasHost ∨ !url.isHttp then .error (.badScheme url.text)
    else
      let url := url.withoutUserInfo.text
      match net url with
      | some reply => .ok reply
      | none => .error (.unreachable url)

/-- Asks for a URL, taking a reply of failure as such. -/
def fetch (net : Network) (text : String) : Except Fault Reply := do
  let reply ← send net text
  if 400 ≤ reply.status ∧ reply.status < 600 then
    match Url.parse text with
    | .ok url => .error (.status reply.status url.withoutUserInfo.text)
    | .error cause => .error (.badUrl cause)
  else .ok reply

def Reply.text (r : Reply) : String :=
  .ofList (Text.Utf8.decodeLossy r.body)

end HstsPreload.Web
