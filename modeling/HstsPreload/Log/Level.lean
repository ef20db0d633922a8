import HstsPreload.Text.Blank
import HstsPreload.Text.Digits

/-!
How much is logged: each level lets through what the levels before it do, and more.
-/

namespace HstsPreload.Log

open HstsPreload.Text

/-- A level of detail. -/
inductive Level where
  | off
  | error
  | warn
  | info
  | debug
  | trace
  deriving Repr, DecidableEq, Inhabited

namespace Level

/-- The levels by the numbers that stand for them. -/
def all : List Level := [.off, .error, .warn, .info, .debug, .trace]

def text : Level → String
  | .off => "off"
  | .error => "error"
  | .warn => "warn"
  | .info => "info"
  | .debug => "debug"
  | .trace => "trace"

/-- Reads a level: its number, or its word in any case. -/
def ofText? (cs : List Char) : Option Level :=
  match readNat (UInt64.size - 1) cs with
  | .ok n => all[n]?
  | .error _ => all.find? fun l => l.text.toList == lowerAscii cs

end Level

end HstsPreload.Log
