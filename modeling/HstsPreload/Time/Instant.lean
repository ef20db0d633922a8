/-!
Instants: seconds since the start of 1970 in UTC, and a fraction of a second. A fraction of a second
or more belongs to a leap second.
-/

namespace HstsPreload

structure Instant where
  seconds : Int
  nanos : Nat
  deriving Repr, DecidableEq, Inhabited

namespace Instant

/-- Nanoseconds in a second. -/
def perSecond : Nat := 1000000000

end Instant

end HstsPreload
