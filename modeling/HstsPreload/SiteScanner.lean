import HstsPreload.Scanner
import HstsPreload.Web.Network

/-!
Verdicts on live sites: the header is asked for at the root of a site over HTTPS.
-/

namespace HstsPreload.Scanner

def cannotConnect (domain : String) (fault : Web.Fault) : Issue :=
  ⟨"domain.tls.cannot_connect", "Cannot connect using TLS",
    s!"We cannot connect to https://{domain} using TLS ({fault.message})."⟩

def multipleHeaders : Issue :=
  ⟨"response.multiple_headers", "Multiple HSTS headers",
    "Response error: Multiple HSTS headers are present on the response."⟩

def invalidCharacters : Issue :=
  ⟨"header.parse.invalid_characters", "Invalid characters",
    "Header parse error: The header contains characters that are not visible ASCII."⟩

/-- The text of a header: visible ASCII, spaces and tabs. -/
def headerText? (bytes : List UInt8) : Option String :=
  if bytes.all fun b => b == 9 || (32 ≤ b && b < 127) then
    some (.ofList (bytes.map fun b => .ofNat b.toNat))
  else none

def askSite (net : Web.Network) (domain : String) : HeaderAnswer :=
  match Web.send net s!"https://{domain}/" with
  | .error fault => .error (.ofError (cannotConnect domain fault))
  | .ok reply =>
    match reply.securityHeaders with
    | [] => .ok none
    | [bytes] =>
      match headerText? bytes with
      | some text => .ok (some text)
      | none => .error (.ofError invalidCharacters)
    | _ => .error (.ofError multipleHeaders)

/-- Verdicts that rest on what sites send. -/
def ofNetwork (net : Web.Network) : Scanner :=
  ofHeaders (askSite net)

end HstsPreload.Scanner
