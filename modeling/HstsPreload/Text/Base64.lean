/-!
Base64 with the standard alphabet. Padding is required and must be canonical, and bits that the last
symbol leaves over must be zero, so each byte string has one written form.
-/

namespace HstsPreload.Text.Base64

/-- The symbol for a number below 64. -/
def symbol (n : Nat) : Char :=
  if n < 26 then .ofNat ('A'.toNat + n)
  else if n < 52 then .ofNat ('a'.toNat + (n - 26))
  else if n < 62 then .ofNat ('0'.toNat + (n - 52))
  else if n = 62 then '+'
  else '/'

/-- The number a symbol stands for. -/
def value? (b : UInt8) : Option Nat :=
  let n := b.toNat
  if 65 ≤ n ∧ n ≤ 90 then some (n - 65)
  else if 97 ≤ n ∧ n ≤ 122 then some (n - 97 + 26)
  else if 48 ≤ n ∧ n ≤ 57 then some (n - 48 + 52)
  else if n = 43 then some 62
  else if n = 47 then some 63
  else none

/-- The padding symbol as a byte. -/
def padByte : UInt8 := 61

/-- Three bytes become four symbols; one or two bytes at the end are padded. -/
def encode : List UInt8 → List Char
  | a :: b :: c :: rest =>
    let n := a.toNat * 65536 + b.toNat * 256 + c.toNat
    symbol (n / 262144) :: symbol (n / 4096 % 64) :: symbol (n / 64 % 64) :: symbol (n % 64)
      :: encode rest
  | [a, b] =>
    let n := a.toNat * 1024 + b.toNat * 4
    [symbol (n / 4096), symbol (n / 64 % 64), symbol (n % 64), '=']
  | [a] =>
    let n := a.toNat * 16
    [symbol (n / 64), symbol (n % 64), '=', '=']
  | [] => []

/-- Why symbols spell no bytes. -/
inductive Fault where
  | invalidByte (offset : Nat) (byte : UInt8)
  | invalidLength (length : Nat)
  | invalidLastSymbol (offset : Nat) (byte : UInt8)
  | invalidPadding
  deriving Repr, DecidableEq

def Fault.message : Fault → String
  | .invalidByte offset byte => s!"Invalid symbol {byte.toNat}, offset {offset}."
  | .invalidLength length => s!"Invalid input length: {length}"
  | .invalidLastSymbol offset byte => s!"Invalid last symbol {byte.toNat}, offset {offset}."
  | .invalidPadding => "Invalid padding"

/-- What the last group of at most four symbols holds. -/
structure Ending where
  /-- The numbers of the symbols before the padding, last first. -/
  values : List Nat := []
  last : UInt8 := 0
  pads : Nat := 0
  /-- Where the padding starts. -/
  firstPad : Nat := 0

/-- Reads the last group, whose next symbol is the `index`-th of the text and the `place`-th of
the group. -/
def readEnding (e : Ending) (index place : Nat) : List UInt8 → Except Fault Ending
  | [] => .ok e
  | b :: rest =>
    if b = padByte then
      if place < 2 then .error (.invalidByte index b)
      else
        let firstPad := if e.pads = 0 then index else e.firstPad
        readEnding { e with pads := e.pads + 1, firstPad := firstPad } (index + 1) (place + 1) rest
    else if e.pads ≠ 0 then .error (.invalidByte e.firstPad padByte)
    else
      match value? b with
      | none => .error (.invalidByte index b)
      | some v =>
        readEnding { e with values := v :: e.values, last := b } (index + 1) (place + 1) rest

/-- The bytes of the last group, which starts at symbol `start`. -/
def closeEnding (start : Nat) (nonempty : Bool) (e : Ending) : Except Fault (List UInt8) :=
  let count := e.values.length
  if nonempty && decide (count < 2) then .error (.invalidLength (start + count))
  else if (e.pads + count) % 4 ≠ 0 then .error .invalidPadding
  else
    match e.values with
    | [y, x] =>
      if y % 16 ≠ 0 then .error (.invalidLastSymbol (start + count - 1) e.last)
      else .ok [.ofNat (x * 4 + y / 16)]
    | [z, y, x] =>
      if z % 4 ≠ 0 then .error (.invalidLastSymbol (start + count - 1) e.last)
      else
        let n := x * 4096 + y * 64 + z
        .ok [.ofNat (n / 1024), .ofNat (n / 4 % 256)]
    | [w, z, y, x] =>
      let n := x * 262144 + y * 4096 + z * 64 + w
      .ok [.ofNat (n / 65536), .ofNat (n / 256 % 256), .ofNat (n % 256)]
    | _ => .ok []

/-- The number of the symbol at `offset`, or the fault it is. -/
def readSymbol (offset : Nat) (b : UInt8) : Except Fault Nat :=
  match value? b with
  | none => .error (.invalidByte offset b)
  | some v => .ok v

/-- Reads groups of four while more than four symbols are left, then the last group. -/
def decodeFrom (nonempty : Bool) : Nat → List UInt8 → Except Fault (List UInt8)
  | start, a :: b :: c :: d :: e :: rest => do
    let x ← readSymbol start a
    let y ← readSymbol (start + 1) b
    let z ← readSymbol (start + 2) c
    let w ← readSymbol (start + 3) d
    let n := x * 262144 + y * 4096 + z * 64 + w
    let more ← decodeFrom nonempty (start + 4) (e :: rest)
    return .ofNat (n / 65536) :: .ofNat (n / 256 % 256) :: .ofNat (n % 256) :: more
  | start, tail => do
    closeEnding start nonempty (← readEnding {} start 0 tail)

/-- Reads symbols as bytes. A lone symbol after whole groups that is in no alphabet is reported
before anything else. -/
def decode (bytes : List UInt8) : Except Fault (List UInt8) :=
  match bytes.getLast? with
  | none => decodeFrom false 0 bytes
  | some last =>
    if bytes.length % 4 = 1 ∧ last ≠ padByte ∧ (value? last).isNone then
      .error (.invalidByte (bytes.length - 1) last)
    else decodeFrom true 0 bytes

end HstsPreload.Text.Base64
