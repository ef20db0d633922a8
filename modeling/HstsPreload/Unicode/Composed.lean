import HstsPreload.Unicode.Combining
import HstsPreload.Unicode.Decomposition

/-!
The composed normal form: characters are taken apart, the marks after each base character are put in
order of their classes, and what can be joined is joined again.
-/

namespace HstsPreload.Unicode

/-- Hangul syllables are computed from the numbers of their lead, vowel and tail. -/
def hangulParts (c : Nat) : Option (List Char) :=
  if 0xac00 ≤ c ∧ c < 0xac00 + 11172 then
    let s := c - 0xac00
    let lead : Char := .ofNat (0x1100 + s / 588)
    let vowel : Char := .ofNat (0x1161 + s % 588 / 28)
    if s % 28 = 0 then some [lead, vowel] else some [lead, vowel, .ofNat (0x11a7 + s % 28)]
  else none

/-- The characters that a character is made of, if it can be taken apart. -/
def partsOf (c : Char) : Option (List Char) :=
  match hangulParts c.toNat with
  | some parts => some parts
  | none => (decompositionTable.row? c.toNat).map fun row => row.value.map .ofNat

/-- Takes a character apart, at most `fuel` levels deep; no character has more than four. -/
def decomposeChar : Nat → Char → List Char
  | 0, c => [c]
  | fuel + 1, c =>
    match partsOf c with
    | some parts => parts.flatMap (decomposeChar fuel)
    | none => [c]

/-- Puts a mark behind those whose class is not larger. -/
def insertMark (c : Char) : List Char → List Char
  | [] => [c]
  | d :: rest =>
    if combiningClass c < combiningClass d then c :: d :: rest else d :: insertMark c rest

/-- Orders each run of marks by class; `marks` holds the run so far, in order. -/
def orderMarks (marks : List Char) : List Char → List Char
  | [] => marks
  | c :: rest =>
    if combiningClass c = 0 then marks ++ c :: orderMarks [] rest
    else orderMarks (insertMark c marks) rest

/-- The characters that composing may produce, with the two they are joined from. -/
def compositions : Array (Nat × Nat × Nat) :=
  decompositionTable.rows.filterMap fun row =>
    match row.value with
    | [a, b] => if compositionExclusions.contains row.first then none else some (a, b, row.first)
    | _ => none

/-- The character that two characters join to. -/
def composePair (a b : Char) : Option Char :=
  let l := a.toNat
  let r := b.toNat
  if 0x1100 ≤ l ∧ l < 0x1113 ∧ 0x1161 ≤ r ∧ r < 0x1176 then
    some (.ofNat (0xac00 + ((l - 0x1100) * 21 + (r - 0x1161)) * 28))
  else if 0xac00 ≤ l ∧ l < 0xac00 + 11172 ∧ (l - 0xac00) % 28 = 0 ∧ 0x11a7 < r ∧ r < 0x11c3 then
    some (.ofNat (l + (r - 0x11a7)))
  else (compositions.find? fun (x, y, _) => x == l && y == r).map fun (_, _, c) => .ofNat c

/-- Joins what follows the base character `base` to it where nothing of the same or a larger class
stands between; `held` are the marks in between, last first. -/
def composeFrom (base : Char) (held : List Char) : List Char → List Char
  | [] => base :: held.reverse
  | c :: rest =>
    let free : Bool :=
      match held with
      | [] => true
      | d :: _ => decide (combiningClass d < combiningClass c)
    match if free then composePair base c else none with
    | some joined => composeFrom joined held rest
    | none =>
      if combiningClass c = 0 then base :: held.reverse ++ composeFrom c [] rest
      else composeFrom base (c :: held) rest

/-- Joins a text of ordered marks; marks before the first base character stay as they are. -/
def compose : List Char → List Char
  | [] => []
  | c :: rest => if combiningClass c = 0 then composeFrom c [] rest else c :: compose rest

/-- The composed normal form; characters before the first combining mark are in it already. -/
def composed (cs : List Char) : List Char :=
  if cs.all (·.toNat < 0x300) then cs
  else compose (orderMarks [] (cs.flatMap (decomposeChar 5)))

end HstsPreload.Unicode
