import HstsPreload.Text.Digits
import HstsPreload.Text.Lines

/-!
IPv4 addresses. Two notations are read: the strict one of four decimal numbers, and the one of host
names, where up to four numbers may be octal or hexadecimal and the last fills what is left.
-/

namespace HstsPreload.Host

open HstsPreload.Text

/-- An address of 32 bits. -/
structure Ipv4 where
  bits : Nat
  deriving Repr, DecidableEq

namespace Ipv4

def loopback : Ipv4 := ⟨0x7f000001⟩

/-- An address as four decimal numbers. -/
def text (a : Ipv4) : List Char :=
  let bytes := [a.bits / Nat.pow 256 3, a.bits / Nat.pow 256 2 % 256, a.bits / 256 % 256,
    a.bits % 256]
  joinWith '.' (bytes.map decimalText)

/-- Reads one number of the strict notation: up to 255, without leading zeros. -/
def octet? (cs : List Char) : Option Nat :=
  if cs = [] ∨ 3 < cs.length ∨ !cs.all Char.isDigit ∨ (1 < cs.length ∧ cs.head? = some '0') then none
  else if decimalValue cs < 256 then some (decimalValue cs)
  else none

/-- Reads the strict notation. -/
def ofDotted? (cs : List Char) : Option Ipv4 :=
  match (splitAt '.' cs).mapM octet? with
  | some [a, b, c, d] => some ⟨a * Nat.pow 256 3 + b * Nat.pow 256 2 + c * 256 + d⟩
  | _ => none

/-- What a part of a host name says as a number. -/
inductive Part where
  | notNumber
  | tooLarge
  | number (n : Nat)

/-- The number that digits of a base spell, if it has 32 bits. -/
def Part.ofValue (n : Nat) : Part :=
  if n < UInt32.size then .number n else .tooLarge

/-- Reads a part: decimal, octal after a zero, hexadecimal after `0x`. -/
def Part.ofText : List Char → Part
  | [] => .notNumber
  | ['0'] => .number 0
  | '0' :: 'x' :: hex => readHex hex
  | '0' :: 'X' :: hex => readHex hex
  | '0' :: octal =>
    if octal.all fun c => '0' ≤ c ∧ c ≤ '7' then
      .ofValue (octal.foldl (fun n c => 8 * n + (c.toNat - '0'.toNat)) 0)
    else .notNumber
  | decimal => if decimal.all Char.isDigit then .ofValue (decimalValue decimal) else .notNumber
where
  /-- Reads what follows `0x`; nothing counts as zero. -/
  readHex (hex : List Char) : Part :=
    if hex.all fun c => (hexDigit? c).isSome then .ofValue (hexValue hex) else .notNumber

/-- The parts of a name without an empty last one. -/
def parts (cs : List Char) : List (List Char) :=
  let all := splitAt '.' cs
  if all.getLast? = some [] then all.dropLast else all

/-- Whether the last part of a name is a number, so that the name must be an address. -/
def endsInNumber (cs : List Char) : Bool :=
  match (parts cs).getLast? with
  | none => false
  | some last =>
    (last ≠ [] && last.all Char.isDigit)
      || (match Part.ofText last with
        | .notNumber => false
        | _ => true)

/-- Adds up the numbers before the last, each of which is one byte. -/
def addBytes : Nat → List Nat → Nat
  | _, [] => 0
  | place, n :: rest => n * Nat.pow 256 (3 - place) + addBytes (place + 1) rest

/-- Reads the notation of host names. -/
def ofName? (cs : List Char) : Option Ipv4 := do
  let ps := parts cs
  if 4 < ps.length then none
  let numbers ← ps.mapM fun p =>
    match Part.ofText p with
    | .number n => some n
    | _ => none
  let last ← numbers.getLast?
  let bytes := numbers.dropLast
  if Nat.pow 256 (4 - bytes.length) ≤ last then none
  if bytes.any (255 < ·) then none
  return ⟨last + addBytes 0 bytes⟩

end Ipv4

end HstsPreload.Host
