import HstsPreload.Text.Digits

/-!
Lengths of time, shown in the largest unit of which there is at least one.
-/

namespace HstsPreload

open HstsPreload.Text

/-- Seconds and a fraction of a second. -/
structure Span where
  seconds : Nat
  nanos : Nat := 0
  deriving Repr, DecidableEq

namespace Span

/-- A whole number of units with the rest, of which there are `10 ^ places` in a unit, after a point
and without zeros at the end. -/
def pointText (whole rest places : Nat) : List Char :=
  let digits := padZeros places (decimalText rest)
  let kept := (digits.reverse.dropWhile (· = '0')).reverse
  if kept = [] then decimalText whole else decimalText whole ++ '.' :: kept

/-- A length of time with its unit. -/
def text (s : Span) : String :=
  if 0 < s.seconds then .ofList (pointText s.seconds s.nanos 9 ++ ['s'])
  else if 1000000 ≤ s.nanos then
    .ofList (pointText (s.nanos / 1000000) (s.nanos % 1000000) 6 ++ ['m', 's'])
  else if 1000 ≤ s.nanos then
    .ofList (pointText (s.nanos / 1000) (s.nanos % 1000) 3 ++ ['µ', 's'])
  else .ofList (decimalText s.nanos ++ ['n', 's'])

end Span

end HstsPreload
