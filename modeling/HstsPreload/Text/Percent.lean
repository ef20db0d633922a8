import HstsPreload.Text.Digits
import HstsPreload.Text.Lines
import HstsPreload.Text.Utf8

/-!
Percent-encoded bytes, and the pairs of a form-encoded query.
-/

namespace HstsPreload.Text

def hexByte? (b : UInt8) : Option Nat :=
  if b.toNat < 128 then hexDigit? (.ofNat b.toNat) else none

/-- Replaces each percent sign with two hexadecimal digits by the byte they spell. -/
def percentDecode : List UInt8 → List UInt8
  | 37 :: high :: low :: rest =>
    match hexByte? high, hexByte? low with
    | some h, some l => .ofNat (16 * h + l) :: percentDecode rest
    | _, _ => 37 :: percentDecode (high :: low :: rest)
  | b :: rest => b :: percentDecode rest
  | [] => []

/-- A byte as a percent sign and two digits. -/
def percentEncodeByte (b : UInt8) : List Char :=
  ['%', upperHexDigit (b.toNat / 16), upperHexDigit (b.toNat % 16)]

/-- Percent-encodes the bytes of every character that `keep` does not admit. -/
def percentEncode (keep : Char → Bool) (cs : List Char) : List Char :=
  cs.flatMap fun c => if keep c then [c] else (Utf8.encodeChar c).flatMap percentEncodeByte

/-- A part of a form-encoded pair: a plus sign is a space, and bytes that spell no character are
replaced. -/
def formDecode (cs : List Char) : List Char :=
  Utf8.decodeLossy (percentDecode (Utf8.encode (cs.map fun c => if c = '+' then ' ' else c)))

/-- The pairs of a form-encoded text; a piece without an equals sign has an empty value. -/
def formPairs (cs : List Char) : List (List Char × List Char) :=
  ((splitAt '&' cs).filter (· ≠ [])).map fun piece =>
    match splitOnce '=' piece with
    | some (key, value) => (formDecode key, formDecode value)
    | none => (formDecode piece, [])

end HstsPreload.Text
