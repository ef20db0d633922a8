import HstsPreload.Text.Digits
import HstsPreload.Text.Lines

/-!
Tables of code points. A table is a list of ascending ranges, each with a few numbers; it is written
as text, one entry after another: `lo`, `lo-hi` or `lo:hi` in hexadecimal (a colon takes every second
code point), and after an equals sign the numbers, separated by commas.
-/

namespace HstsPreload.Unicode

open HstsPreload.Text

/-- Every `step`-th code point from `first` to `last`, with the numbers a table gives them. -/
structure Row where
  first : Nat
  last : Nat
  step : Nat
  value : List Nat
  deriving Repr, DecidableEq

/-- The range that an entry covers. -/
def Row.ofRange (range : List Char) (value : List Nat) : Row :=
  match splitOnce '-' range with
  | some (lo, hi) => ⟨hexValue lo, hexValue hi, 1, value⟩
  | none =>
    match splitOnce ':' range with
    | some (lo, hi) => ⟨hexValue lo, hexValue hi, 2, value⟩
    | none => ⟨hexValue range, hexValue range, 1, value⟩

/-- Reads one entry. -/
def Row.ofText (entry : List Char) : Row :=
  match splitOnce '=' entry with
  | some (range, value) => .ofRange range ((splitAt ',' value).map hexValue)
  | none => .ofRange entry []

/-- What a code point of the row is sent to: a single number moves along with the range. -/
def Row.targets (row : Row) (c : Nat) : List Char :=
  match row.value with
  | [t] => [.ofNat (t + (c - row.first))]
  | ts => ts.map .ofNat

/-- Rows in ascending order. -/
structure Table where
  rows : Array Row

/-- Reads the entries of several lines. -/
def Table.ofLines (lines : List String) : Table :=
  ⟨(lines.flatMap fun line => (splitAt ' ' line.toList).map Row.ofText).toArray⟩

/-- Looks for the row that holds `c` among those from `lo` up to `hi`. -/
def Table.search (rows : Array Row) (c : Nat) : Nat → Nat → Nat → Option Row
  | 0, _, _ => none
  | fuel + 1, lo, hi =>
    if lo < hi then
      let mid := (lo + hi) / 2
      match rows[mid]? with
      | none => none
      | some row =>
        if c < row.first then search rows c fuel lo mid
        else if row.last < c then search rows c fuel (mid + 1) hi
        else if (c - row.first) % row.step = 0 then some row
        else none
    else none

/-- The row that holds a code point. -/
def Table.row? (t : Table) (c : Nat) : Option Row :=
  Table.search t.rows c (t.rows.size + 1) 0 t.rows.size

/-- Whether a code point has a row. -/
def Table.contains (t : Table) (c : Nat) : Bool :=
  (t.row? c).isSome

/-- The number a table gives a code point, zero if it has no row. -/
def Table.number (t : Table) (c : Nat) : Nat :=
  match t.row? c with
  | some { value := n :: _, .. } => n
  | _ => 0

end HstsPreload.Unicode
