import HstsPreload.Text.Digits

/-!
Finite binary64 values as exact numbers: how decimal text becomes one, and the fewest digits that
name it.
-/

namespace HstsPreload.Json

open HstsPreload.Text

/-- The value `mantissa * 2 ^ exponent`; at most 53 bits, and 53 unless the exponent is least. -/
structure Binary64 where
  mantissa : Nat
  exponent : Int
  deriving Repr, DecidableEq

namespace Binary64

def leastExponent : Int := -1074

def zero : Binary64 := ⟨0, leastExponent⟩

/-- The quotient rounded to the nearest whole number, a half to the even one. -/
def roundDiv (num den : Nat) : Nat :=
  let q := num / den
  let r := num % den
  if 2 * r < den ∨ (2 * r = den ∧ q % 2 = 0) then q else q + 1

/-- The fraction `num / (den * 2 ^ e)`. -/
def shift (num den : Nat) (e : Int) : Nat × Nat :=
  if 0 ≤ e then (num, den * Nat.pow 2 e.toNat) else (num * Nat.pow 2 (-e).toNat, den)

/-- The nearest value to a positive fraction, or nothing if that would be infinite. -/
def ofFraction (num den : Nat) : Option Binary64 :=
  if num = 0 then some zero
  else
    let low : Int := (Nat.log2 num : Int) - (Nat.log2 den : Int) - 53
    let (n, d) := shift num den low
    let e := max leastExponent (if n / d < Nat.pow 2 53 then low else low + 1)
    let (n, d) := shift num den e
    let m := roundDiv n d
    let (m, e) := if m = Nat.pow 2 53 then (Nat.pow 2 52, e + 1) else (m, e)
    if 971 < e then none else some ⟨m, e⟩

def fraction (x : Binary64) : Nat × Nat :=
  if 0 ≤ x.exponent then (x.mantissa * Nat.pow 2 x.exponent.toNat, 1)
  else (x.mantissa, Nat.pow 2 (-x.exponent).toNat)

/-- The product, rounded. -/
def mul (x y : Binary64) : Option Binary64 :=
  let (a, b) := x.fraction
  let (c, d) := y.fraction
  ofFraction (a * c) (b * d)

/-- The quotient, rounded. -/
def div (x y : Binary64) : Option Binary64 :=
  let (a, b) := x.fraction
  let (c, d) := y.fraction
  ofFraction (a * d) (b * c)

/-- A power of ten, rounded. -/
def powerOfTen (k : Nat) : Option Binary64 :=
  ofFraction (Nat.pow 10 k) 1

/-- Scales by a power of ten in steps of at most 308, with fuel for the steps; nothing if the value
becomes infinite. -/
def scale : Nat → Binary64 → Int → Option Binary64
  | 0, x, _ => some x
  | fuel + 1, x, e => do
    if e.natAbs ≤ 308 then
      let p ← powerOfTen e.natAbs
      if 0 ≤ e then x.mul p else x.div p
    else if x.mantissa = 0 then some x
    else if 0 ≤ e then none
    else
      let p ← powerOfTen 308
      scale fuel (← x.div p) (e + 308)

/-- The value of `digits * 10 ^ exponent`: the digits are rounded first, then scaled. -/
def ofDecimal (digits : Nat) (exponent : Int) : Option Binary64 := do
  scale 8 (← ofFraction digits 1) exponent

/-- The exponent of the first digit of a fraction below one, with fuel for its leading zeros. -/
def leadingZeros : Nat → Nat → Nat → Nat
  | 0, _, _ => 0
  | fuel + 1, num, den => if den ≤ num then 0 else 1 + leadingZeros fuel (num * 10) den

/-- The power of ten of the first digit of a positive fraction. -/
def firstDigit (num den : Nat) : Int :=
  if den ≤ num then ((decimalText (num / den)).length : Int) - 1
  else -(leadingZeros 400 num den : Int)

/-- The fraction `num / den` in units of `10 ^ k`. -/
def inUnits (num den : Nat) (k : Int) : Nat × Nat :=
  if 0 ≤ k then (num, den * Nat.pow 10 k.toNat) else (num * Nat.pow 10 (-k).toNat, den)

/-- Looks for a decimal of `count` digits, then of more, that lies between the ends `lo` and `hi`;
all three numbers are in units of `1 / den`. -/
def search (lo x hi den : Nat) (closed : Bool) (first : Int) : Nat → Nat → Nat × Int
  | 0, _ => (0, 0)
  | fuel + 1, count =>
    let k := first - count + 1
    let (n, d) := inUnits x den k
    let below := n / d
    let inside (a : Nat) : Bool :=
      let (l, dl) := inUnits lo den k
      let (h, dh) := inUnits hi den k
      if closed then decide (l ≤ a * dl ∧ a * dh ≤ h) else decide (l < a * dl ∧ a * dh < h)
    let near : Bool := decide (2 * (n % d) < d ∨ (2 * (n % d) = d ∧ below % 2 = 0))
    let best := if near then below else below + 1
    let other := if near then below + 1 else below
    if inside best then (best, k)
    else if inside other then (other, k)
    else search lo x hi den closed first fuel (count + 1)

/-- Digits of which the last is no zero, where at most one is. -/
def dropZero (digits : Nat × Int) : Nat × Int :=
  if digits.1 % 10 = 0 then (digits.1 / 10, digits.2 + 1) else digits

/-- The fewest digits, with their power of ten, that name a positive value: those of the nearest
decimal among the shortest that are closer to it than to any other value. A value just below a power of
ten is found as that power with a zero too many. -/
def shortest (x : Binary64) : Nat × Int :=
  let lo := if x.mantissa = Nat.pow 2 52 ∧ x.exponent ≠ leastExponent then 4 * x.mantissa - 1
    else 4 * x.mantissa - 2
  let e := x.exponent - 2
  let up := if 0 ≤ e then Nat.pow 2 e.toNat else 1
  let den := if 0 ≤ e then 1 else Nat.pow 2 (-e).toNat
  let mid := 4 * x.mantissa * up
  dropZero <| search (lo * up) mid ((4 * x.mantissa + 2) * up) den (x.mantissa % 2 == 0)
    (firstDigit mid den) 17 1

/-- Whole numbers and places after the point are written out up to sixteen digits before the point
and four zeros after it, always with a digit after the point; other values have an exponent. -/
def text (x : Binary64) : List Char :=
  if x.mantissa = 0 then ['0', '.', '0']
  else
    let (digits, k) := x.shortest
    let ds := decimalText digits
    let point : Int := (ds.length : Int) + k
    if 0 ≤ k ∧ point ≤ 16 then ds ++ List.replicate k.toNat '0' ++ ['.', '0']
    else if 0 < point ∧ point ≤ 16 then ds.take point.toNat ++ '.' :: ds.drop point.toNat
    else if -5 < point ∧ point ≤ 0 then
      ['0', '.'] ++ List.replicate (-point).toNat '0' ++ ds
    else
      let power := point - 1
      let exponent := if power < 0 then '-' :: decimalText power.natAbs else decimalText power.natAbs
      match ds with
      | [d] => d :: 'e' :: exponent
      | d :: more => d :: '.' :: more ++ 'e' :: exponent
      | [] => []

end Binary64

end HstsPreload.Json
