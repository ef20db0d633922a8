import HstsPreload.Host.Ipv6
import HstsPreload.Host.Label
import HstsPreload.Text.Percent

/-!
Hosts: a name in ASCII form, an IPv4 address or an IPv6 address in brackets.
-/

namespace HstsPreload

open HstsPreload.Text

/-- What a host text names. -/
inductive Host where
  | name (ascii : List Char)
  | ipv4 (address : Host.Ipv4)
  | ipv6 (address : Host.Ipv6)
  deriving Repr, DecidableEq

namespace Host

/-- Why a text names no host. -/
inductive Fault where
  | empty
  | invalidName
  | invalidIpv4
  | invalidIpv6
  deriving Repr, DecidableEq

def Fault.message : Fault → String
  | .empty => "empty host"
  | .invalidName => "invalid international domain name"
  | .invalidIpv4 => "invalid IPv4 address"
  | .invalidIpv6 => "invalid IPv6 address"

/-- Reads a name that is already in ASCII form: it is an address if it ends in a number. -/
def ofAscii (cs : List Char) : Except Fault Host :=
  if cs = [] then .error .empty
  else if Ipv4.endsInNumber cs then
    match Ipv4.ofName? cs with
    | some address => .ok (.ipv4 address)
    | none => .error .invalidIpv4
  else .ok (.name cs)

/-- Reads what stands between brackets. -/
def ofBracketed (cs : List Char) : Except Fault Host :=
  if cs.getLast? = some ']' then
    match Ipv6.ofText? cs.dropLast with
    | some address => .ok (.ipv6 address)
    | none => .error .invalidIpv6
  else .error .invalidIpv6

/-- Reads a name: percent-encoded bytes are decoded, and the result is brought into ASCII form. -/
def ofName (cs : List Char) : Except Fault Host :=
  match toAscii (Utf8.decodeLossy (percentDecode (Utf8.encode cs))) with
  | some ascii => ofAscii ascii
  | none => .error .invalidName

def parse : List Char → Except Fault Host
  | '[' :: rest => ofBracketed rest
  | cs => ofName cs

/-- The one way a host is written. -/
def text : Host → List Char
  | .name ascii => ascii
  | .ipv4 address => address.text
  | .ipv6 address => '[' :: address.text ++ [']']

end Host

end HstsPreload
