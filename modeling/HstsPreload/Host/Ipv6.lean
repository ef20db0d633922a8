import HstsPreload.Host.Ipv4

/-!
IPv6 addresses: eight groups of 16 bits in hexadecimal, where two colons stand for one or more groups
of zeros and the last two groups may be an IPv4 address.
-/

namespace HstsPreload.Host

open HstsPreload.Text

/-- An address of eight groups. -/
structure Ipv6 where
  groups : List Nat
  deriving Repr, DecidableEq

namespace Ipv6

/-- Reads one group of one to four digits. -/
def group? (cs : List Char) : Option Nat :=
  if cs = [] ∨ 4 < cs.length ∨ !cs.all fun c => (hexDigit? c).isSome then none
  else some (hexValue cs)

/-- Reads groups between single colons; only where `dotted` holds may the last be an IPv4 address. -/
def groups? (dotted : Bool) : List (List Char) → Option (List Nat)
  | [] => some []
  | [last] =>
    match group? last with
    | some g => some [g]
    | none =>
      if dotted then
        (Ipv4.ofDotted? last).map fun a => [a.bits / UInt16.size, a.bits % UInt16.size]
      else none
  | piece :: more => do
    let g ← group? piece
    let gs ← groups? dotted more
    return g :: gs

/-- Cuts at the first pair of colons. -/
def splitPair : List Char → Option (List Char × List Char)
  | ':' :: ':' :: rest => some ([], rest)
  | c :: rest => (splitPair rest).map fun (before, after) => (c :: before, after)
  | [] => none

/-- The groups on one side of a pair of colons, where there may be none. -/
def side? (dotted : Bool) (cs : List Char) : Option (List Nat) :=
  if cs = [] then some [] else groups? dotted (splitAt ':' cs)

def ofText? (cs : List Char) : Option Ipv6 := do
  match splitPair cs with
  | none =>
    let gs ← groups? true (splitAt ':' cs)
    if gs.length = 8 then some ⟨gs⟩ else none
  | some (before, after) =>
    let front ← side? false before
    let back ← side? true after
    if front.length + back.length < 8 then
      some ⟨front ++ List.replicate (8 - front.length - back.length) 0 ++ back⟩
    else none

/-- How many zeros a list of groups starts with. -/
def zeroRun (gs : List Nat) : Nat :=
  (gs.takeWhile (· = 0)).length

/-- The start and length of the first longest run of zeros from place `start` on. -/
def longestRun (start : Nat) : List Nat → Nat × Nat
  | [] => (start, 0)
  | g :: gs =>
    let here := zeroRun (g :: gs)
    let later := longestRun (start + 1) gs
    if later.2 ≤ here then (start, here) else later

/-- Groups in hexadecimal between colons. -/
def groupsText (gs : List Nat) : List Char :=
  joinWith ':' (gs.map hexText)

/-- An address with its first longest run of two or more zeros written as two colons. -/
def text (a : Ipv6) : List Char :=
  let (start, length) := longestRun 0 a.groups
  if length < 2 then groupsText a.groups
  else groupsText (a.groups.take start) ++ [':', ':'] ++ groupsText (a.groups.drop (start + length))

/-- An address with an IPv4 address in it shown as such. -/
def mixedText (a : Ipv6) : List Char :=
  match a.groups with
  | [0, 0, 0, 0, 0, 0xffff, high, low] =>
    [':', ':', 'f', 'f', 'f', 'f', ':'] ++ Ipv4.text ⟨high * UInt16.size + low⟩
  | _ => a.text

end Ipv6

end HstsPreload.Host
