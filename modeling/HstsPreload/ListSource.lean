import HstsPreload.PreloadList
import HstsPreload.Text.Base64
import HstsPreload.Text.Utf8
import HstsPreload.Web.Network

/-!
Where the preload list comes from: its text, encoded in base64, is fetched over the network.
-/

namespace HstsPreload

open HstsPreload.Text

/-- Why there is no list. -/
inductive ListFault where
  | fetch (fault : Web.Fault)
  | decode (fault : Base64.Fault)
  | utf8 (fault : Utf8.Fault)
  | parse (error : Json.Error)
  deriving Repr, DecidableEq

def ListFault.message : ListFault → String
  | .fetch fault => s!"fetching the preload list failed: {fault.message}"
  | .decode fault => s!"the preload list is not valid base64: {fault.message}"
  | .utf8 fault => s!"the preload list is not valid UTF-8: {fault.message}"
  | .parse error => s!"the preload list is not valid JSON: {error.message}"

def ListFault.source : ListFault → String
  | .fetch fault => fault.message
  | .decode fault => fault.message
  | .utf8 fault => fault.message
  | .parse error => error.message

namespace PreloadList

def publishedAt : String :=
  "https://chromium.googlesource.com/chromium/src/+/main/net/http/transport_security_state_static.json?format=TEXT"

/-- Reads an encoded list, which may be wrapped into lines. -/
def decode (body : String) : Except ListFault PreloadList := do
  let symbols := body.toList.filter fun c => !isAsciiBlank c
  let bytes ← (Base64.decode (Utf8.encode symbols)).mapError .decode
  let text ← (Utf8.decode bytes).mapError .utf8
  (parse (.ofList text)).mapError .parse

def latest (net : Web.Network) (url : String) : Except ListFault PreloadList := do
  let reply ← (Web.fetch net url).mapError .fetch
  decode reply.text

end PreloadList

end HstsPreload
