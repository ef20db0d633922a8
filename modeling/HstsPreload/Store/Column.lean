import HstsPreload.Json.Binary64
import HstsPreload.Text.Digits

/-!
Columns of a table and what they make of the values put into them: a column of texts writes numbers
out, and a column of whole numbers reads texts that look like numbers. Both keep bytes as they are.
-/

namespace HstsPreload.Column

open HstsPreload.Text

/-- A value that is put into a column. -/
inductive Given where
  | null
  | integer (n : Int)
  | text (s : String)
  | bytes (b : List UInt8)
  deriving Repr, DecidableEq

/-- What a column of texts holds. -/
inductive TextCell where
  | text (s : String)
  | bytes (b : List UInt8)
  deriving Repr, DecidableEq

instance : Coe String TextCell := ⟨.text⟩

/-- What a column of whole numbers holds. -/
inductive Cell where
  | integer (n : Int)
  | real
  | text (s : String)
  | bytes (b : List UInt8)
  deriving Repr, DecidableEq

/-- What a column of texts makes of a value. -/
def Given.asText : Given → Option TextCell
  | .null => none
  | .integer n => some (.text (toString n))
  | .text s => some (.text s)
  | .bytes b => some (.bytes b)

/-- Blanks that may surround a number. -/
def isPadding (c : Char) : Bool :=
  c == ' ' || (9 ≤ c.toNat && c.toNat ≤ 13)

/-- A decimal number: its digits, how many of them stand after the point, and its exponent. -/
structure Decimal where
  minus : Bool
  digits : List Char
  places : Nat
  exponent : Int
  /-- Whether it has neither a point nor an exponent. -/
  whole : Bool

/-- A sign and what follows it. -/
def signed : List Char → Bool × List Char
  | '-' :: rest => (true, rest)
  | '+' :: rest => (false, rest)
  | cs => (false, cs)

/-- Reads what may follow the digits of a number. -/
def readPower (d : Decimal) : List Char → Option Decimal
  | [] => some d
  | c :: rest =>
    if c = 'e' ∨ c = 'E' then
      let (minus, ds) := signed rest
      if ds ≠ [] ∧ ds.all Char.isDigit then
        let n : Int := decimalValue ds
        some { d with exponent := if minus then -n else n, whole := false }
      else none
    else none

/-- Reads a text that looks like a number. -/
def readDecimal (cs : List Char) : Option Decimal :=
  let cs := ((cs.dropWhile isPadding).reverse.dropWhile isPadding).reverse
  let (minus, cs) := signed cs
  let before := cs.takeWhile Char.isDigit
  match cs.dropWhile Char.isDigit with
  | '.' :: rest =>
    let after := rest.takeWhile Char.isDigit
    if before = [] ∧ after = [] then none
    else readPower ⟨minus, before ++ after, after.length, 0, false⟩ (rest.dropWhile Char.isDigit)
  | rest => if before = [] then none else readPower ⟨minus, before, 0, 0, true⟩ rest

/-- The nearest binary64 value of a number without its sign, if it is finite. Exponents beyond a
thousand are all alike. -/
def Decimal.toBinary (d : Decimal) : Option Json.Binary64 :=
  let n := decimalValue d.digits
  let e := max (-2000) (min 2000 (d.exponent - d.places))
  if 0 ≤ e then Json.Binary64.ofFraction (n * Nat.pow 10 e.toNat) 1
  else Json.Binary64.ofFraction n (Nat.pow 10 (-e).toNat)

/-- What a column of whole numbers makes of a number: a whole one of 64 bits is kept as such. -/
def Decimal.toCell (d : Decimal) : Cell :=
  let n := decimalValue d.digits
  if d.whole ∧ (n < Nat.pow 2 63 ∨ (d.minus ∧ n = Nat.pow 2 63)) then
    .integer (if d.minus then -(n : Int) else n)
  else
    match d.toBinary with
    | none => .real
    | some x =>
      let (num, den) := x.fraction
      if num % den = 0 ∧ num / den < Nat.pow 2 63 - 1 then
        .integer (if d.minus then -(num / den : Nat) else (num / den : Nat))
      else .real

/-- What a column of whole numbers makes of a text. -/
def Cell.ofText (s : String) : Cell :=
  match readDecimal s.toList with
  | some d => d.toCell
  | none => .text s

/-- What a column of whole numbers makes of a value. -/
def Given.asInteger : Given → Option Cell
  | .null => none
  | .integer n => some (.integer n)
  | .text s => some (.ofText s)
  | .bytes b => some (.bytes b)

end HstsPreload.Column
