import HstsPreload.Host.Ipv6

/-!
Addresses to listen on: an address of either kind and a port.
-/

namespace HstsPreload.Host

open HstsPreload.Text

/-- An address of either kind. -/
inductive Address where
  | v4 (a : Ipv4)
  | v6 (a : Ipv6)
  deriving Repr, DecidableEq

def Address.ofText? (cs : List Char) : Option Address :=
  match Ipv4.ofDotted? cs with
  | some a => some (.v4 a)
  | none => (Ipv6.ofText? cs).map .v6

structure Endpoint where
  address : Address
  port : Nat
  deriving Repr, DecidableEq

/-- An address of the newer kind stands in brackets before its port. -/
def Endpoint.text (e : Endpoint) : String :=
  .ofList <|
    (match e.address with
      | .v4 a => a.text
      | .v6 a => '[' :: a.mixedText ++ [']'])
    ++ ':' :: decimalText e.port

end HstsPreload.Host
