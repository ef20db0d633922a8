import HstsPreload.Text.Digits

/-!
Punycode: a label of any characters written with letters, digits and hyphens. The ASCII characters
come first; then each other character, in ascending order, is told by how far it is from the one
before, as a number in mixed base 36 whose thresholds adapt to the numbers seen.
-/

namespace HstsPreload.Host.Punycode

/-- The number a letter or digit stands for: letters come before digits. -/
def digit? (c : Char) : Option Nat :=
  if 'a' ≤ c ∧ c ≤ 'z' then some (c.toNat - 'a'.toNat)
  else if 'A' ≤ c ∧ c ≤ 'Z' then some (c.toNat - 'A'.toNat)
  else if '0' ≤ c ∧ c ≤ '9' then some (c.toNat - '0'.toNat + 26)
  else none

/-- The letter or digit for a number below 36. -/
def digit (n : Nat) : Char :=
  .ofNat (if n < 26 then 'a'.toNat + n else '0'.toNat + (n - 26))

/-- The threshold of the `place`-th digit, counted in steps of 36. -/
def threshold (place bias : Nat) : Nat :=
  if place ≤ bias then 1 else min 26 (place - bias)

/-- Halving steps of the adaptation, with fuel for the size of a distance. -/
def adaptSteps : Nat → Nat → Nat → Nat
  | 0, delta, k => k + 36 * delta / (delta + 38)
  | fuel + 1, delta, k =>
    if 455 < delta then adaptSteps fuel (delta / 35) (k + 36) else k + 36 * delta / (delta + 38)

/-- The next bias after a distance, when `count` characters are placed. -/
def adapt (delta count : Nat) (first : Bool) : Nat :=
  let delta := if first then delta / 700 else delta / 2
  adaptSteps 64 (delta + delta / count) 0

/-- Numbers at or above this bound are refused. -/
def bound : Nat := UInt32.size

/-- Reads one distance: the sum of the digits so far is `i`, the next digit weighs `weight`. -/
def readDelta (bias : Nat) : Nat → Nat → Nat → List Char → Option (Nat × List Char)
  | _, _, _, [] => none
  | i, weight, place, c :: rest =>
    match digit? c with
    | none => none
    | some d =>
      let sum := i + d * weight
      let t := threshold place bias
      if bound ≤ d * weight ∨ bound ≤ sum then none
      else if d < t then some (sum, rest)
      else
        let next := weight * (36 - t)
        if bound ≤ next then none else readDelta bias sum next (place + 36) rest

/-- Places characters until the digits run out. -/
def readChars : Nat → Nat → Nat → Nat → List Char → List Char → Option (List Char)
  | 0, _, _, _, placed, _ => some placed
  | fuel + 1, n, i, bias, placed, digits =>
    if digits = [] then some placed
    else
      match readDelta bias i 1 36 digits with
      | none => none
      | some (sum, rest) =>
        let count := placed.length + 1
        let code := n + sum / count
        let place := sum % count
        if code < 0xd800 ∨ (0xe000 ≤ code ∧ code < 0x110000) then
          readChars fuel code (place + 1) (adapt (sum - i) count (i == 0))
            (placed.take place ++ .ofNat code :: placed.drop place) rest
        else none

/-- Cuts at the last hyphen that is not the first character. -/
def splitBase (cs : List Char) : List Char × List Char :=
  let digits := (cs.reverse.takeWhile (· ≠ '-')).reverse
  let base := cs.take (cs.length - digits.length - 1)
  if base = [] then ([], cs) else (base, digits)

def decode (cs : List Char) : Option (List Char) :=
  let (base, digits) := splitBase cs
  if base.all (·.toNat < 128) then readChars digits.length 128 0 72 base digits else none

/-- Writes one distance, with fuel for its digits. -/
def writeDelta (bias : Nat) : Nat → Nat → Nat → List Char
  | 0, _, _ => []
  | fuel + 1, q, place =>
    let t := threshold place bias
    if q < t then [digit q]
    else digit (t + (q - t) % (36 - t)) :: writeDelta bias fuel ((q - t) / (36 - t)) (place + 36)

/-- Where writing stands within one pass over the label. -/
structure Progress where
  delta : Nat
  bias : Nat
  placed : Nat
  first : Bool
  written : List Char

/-- Passes over the label once for the characters with code `code`. -/
def writeCode (code : Nat) (p : Progress) : List Char → Progress
  | [] => p
  | c :: rest =>
    if c.toNat < code then writeCode code { p with delta := p.delta + 1 } rest
    else if c.toNat = code then
      writeCode code
        { delta := 0, bias := adapt p.delta (p.placed + 1) p.first, placed := p.placed + 1,
          first := false, written := p.written ++ writeDelta p.bias 64 p.delta 36 } rest
    else writeCode code p rest

/-- The least code above or at `n` among the characters. -/
def nextCode (n : Nat) (cs : List Char) : Option Nat :=
  ((cs.map Char.toNat).filter (n ≤ ·)).min?

/-- Writes the remaining characters, of code `n` and above, with fuel for the distinct codes. -/
def writeFrom (cs : List Char) : Nat → Nat → Progress → List Char
  | 0, _, p => p.written
  | fuel + 1, n, p =>
    match nextCode n cs with
    | none => p.written
    | some code =>
      let p := { p with delta := p.delta + (code - n) * (p.placed + 1) }
      let p := writeCode code p cs
      writeFrom cs fuel (code + 1) { p with delta := p.delta + 1 }

/-- Writes a label: its ASCII characters and a hyphen if there are any, then the distances. -/
def encode (cs : List Char) : List Char :=
  let ascii := cs.filter (·.toNat < 128)
  let base := if ascii = [] then [] else ascii ++ ['-']
  base ++ writeFrom cs cs.length 128 ⟨0, 72, ascii.length, true, []⟩

end HstsPreload.Host.Punycode
