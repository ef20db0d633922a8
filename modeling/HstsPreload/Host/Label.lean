import HstsPreload.Host.Direction
import HstsPreload.Host.Joiner
import HstsPreload.Host.Punycode
import HstsPreload.Text.Lines
import HstsPreload.Unicode.Composed
import HstsPreload.Unicode.HostMapping
import HstsPreload.Unicode.Mark

/-!
Host names of any characters in ASCII form. The name is mapped and composed, cut at full stops, and
each label is checked; a label that is not ASCII is then written in punycode behind `xn--`.
-/

namespace HstsPreload.Host

open HstsPreload.Text HstsPreload.Unicode

/-- ASCII characters that no host name holds: controls, the space and delimiters of addresses. -/
def isForbidden (c : Char) : Bool :=
  c.toNat ≤ 32 || c.toNat == 127
    || ['%', '#', '/', ':', '<', '>', '?', '@', '[', '\\', ']', '^', '|'].contains c

/-- Maps the characters of a name one by one; none if one of them is refused. -/
def mapChars : List Char → Option (List Char)
  | [] => some []
  | c :: rest => do
    let cs ← hostMapping c
    let more ← mapChars rest
    return cs ++ more

/-- A name after mapping and composing. -/
def mapped (cs : List Char) : Option (List Char) :=
  (mapChars cs).map composed

/-- Whether a label of a mapped name is well formed. -/
def isLabel (label : List Char) : Bool :=
  !label.any isForbidden
    && (match label with
      | [] => true
      | c :: _ => !isMark c)
    && joinersStand [] label

/-- The mark of a label in punycode. -/
def aceMark : List Char := ['x', 'n', '-', '-']

/-- The most ASCII characters that are read as punycode. -/
def longestEncoded : Nat := 2000

/-- The most characters that are written as punycode. -/
def longestDecoded : Nat := 1000

/-- The characters that a label behind `xn--` stands for: it must be in the form that encoding gives,
and its characters must already be mapped. -/
def decodeLabel (encoded : List Char) : Option (List Char) :=
  if encoded = [] ∨ encoded.getLast? = some '-' ∨ !encoded.all (·.toNat < 128)
      ∨ longestEncoded < encoded.length then none
  else
    match Punycode.decode encoded with
    | none => none
    | some label =>
      if mapped label = some label ∧ isLabel label ∧ !label.contains '.' then some label else none

/-- A checked label: its characters and how it is written in ASCII. -/
structure Label where
  chars : List Char
  ascii : List Char

/-- Checks one label of a mapped name. -/
def Label.ofMapped (label : List Char) : Option Label :=
  if label.take 4 = aceMark then
    (decodeLabel (label.drop 4)).map fun chars => ⟨chars, label⟩
  else if !isLabel label then none
  else if label.all (·.toNat < 128) then some ⟨label, label⟩
  else if longestDecoded < label.length then none
  else some ⟨label, aceMark ++ Punycode.encode label⟩

/-- Whether all labels read in one direction, which is asked of names with right-to-left labels. -/
def directionsAgree (labels : List Label) : Bool :=
  !labels.any (fun l => l.chars.any isRightToLeft) || labels.all fun l => readsOneWay l.chars

/-- A name in ASCII form; empty labels are kept. -/
def toAscii (cs : List Char) : Option (List Char) := do
  let name ← mapped cs
  let labels ← (splitAt '.' name).mapM Label.ofMapped
  if directionsAgree labels then some (joinWith '.' (labels.map Label.ascii)) else none

end HstsPreload.Host
