import HstsPreload.Text.Utf8
import HstsPreload.Time.Calendar

/-!
Instants in the notation `2017-01-02T03:04:05.000000000Z`. They are written in UTC to the nanosecond;
any offset and any number of places are read.
-/

namespace HstsPreload.Rfc3339

open HstsPreload.Text

/-- Why a text is no instant. -/
inductive Fault where
  | tooShort
  | invalid
  | outOfRange
  | trailing
  deriving Repr, DecidableEq

def Fault.message : Fault → String
  | .tooShort => "premature end of input"
  | .invalid => "input contains invalid characters"
  | .outOfRange => "input is out of range"
  | .trailing => "trailing input"

/-- Writes an instant. The second of a leap second is the sixtieth. -/
def write (t : Instant) : String :=
  let d := t.date
  let s := t.secondOfDay
  let leap := Instant.perSecond ≤ t.nanos
  let second := if leap then s % 60 + 1 else s % 60
  let nanos := if leap then t.nanos - Instant.perSecond else t.nanos
  .ofList <| Date.yearText d.year ++ '-' :: padZeros 2 (decimalText d.month)
    ++ '-' :: padZeros 2 (decimalText d.day)
    ++ 'T' :: padZeros 2 (decimalText (s / 3600))
    ++ ':' :: padZeros 2 (decimalText (s / 60 % 60))
    ++ ':' :: padZeros 2 (decimalText second)
    ++ '.' :: padZeros 9 (decimalText nanos) ++ ['Z']

def digits (count : Nat) (cs : List Char) : Except Fault (Nat × List Char) :=
  let ds := cs.take count
  if ds.length = count ∧ ds.all Char.isDigit then .ok (decimalValue ds, cs.drop count)
  else .error .invalid

def separator (c : Char) : List Char → Except Fault (List Char)
  | d :: rest => if c = d then .ok rest else .error .invalid
  | [] => .error .invalid

/-- Reads the places after the point as nanoseconds; more than nine are passed over. -/
def fraction : List Char → Except Fault (Nat × List Char)
  | '.' :: rest =>
    match rest.takeWhile Char.isDigit with
    | [] => .error (if rest = [] then .tooShort else .invalid)
    | places =>
      let first := places.take 9
      .ok (decimalValue first * Nat.pow 10 (9 - first.length), rest.dropWhile Char.isDigit)
  | cs => .ok (0, cs)

/-- The fault of an offset in which two digits should come next. -/
def noDigits (cs : List Char) : Fault :=
  if Utf8.size cs < 2 then .tooShort else .invalid

def offsetDigits : List Char → Except Fault (Nat × List Char)
  | a :: b :: rest =>
    if a.isDigit ∧ b.isDigit then .ok (decimalValue [a, b], rest) else .error .invalid
  | cs => .error (noDigits cs)

/-- Reads the offset after its sign, in minutes. -/
def offsetMinutes (cs : List Char) : Except Fault (Nat × List Char) := do
  let (hours, rest) ← offsetDigits cs
  match rest with
  | [] => .error .tooShort
  | c :: rest =>
    if c ≠ ':' then .error .invalid
    else
      match rest with
      | a :: b :: after =>
        if a.isDigit ∧ b.isDigit then
          if '6' ≤ a then .error .outOfRange
          else .ok (60 * hours + decimalValue [a, b], after)
        else .error .invalid
      | cs => .error (noDigits cs)

/-- Reads the offset from UTC in minutes. -/
def offset : List Char → Except Fault (Int × List Char)
  | [] => .error .tooShort
  | c :: rest =>
    if c = 'Z' ∨ c = 'z' then .ok (0, rest)
    else if c = '+' then do
      let (m, rest) ← offsetMinutes rest
      return (m, rest)
    else if c = '-' ∨ c.toNat = 0x2212 then do
      let (m, rest) ← offsetMinutes rest
      return (-(m : Int), rest)
    else .error .invalid

def read (text : String) : Except Fault Instant := do
  let cs := text.toList
  if (text.utf8ByteSize : Nat) < 19 then .error .tooShort
  let (year, cs) ← digits 4 cs
  let cs ← separator '-' cs
  let (month, cs) ← digits 2 cs
  let cs ← separator '-' cs
  let (day, cs) ← digits 2 cs
  let date : Date := ⟨year, month, day⟩
  if !date.isValid then .error .outOfRange
  let cs ← match cs with
    | c :: rest => if c = 'T' ∨ c = 't' ∨ c = ' ' then .ok rest else .error .invalid
    | [] => .error .invalid
  let (hour, cs) ← digits 2 cs
  let cs ← separator ':' cs
  let (minute, cs) ← digits 2 cs
  let cs ← separator ':' cs
  let (second, cs) ← digits 2 cs
  let (nanos, cs) ← fraction cs
  if 23 < hour ∨ 59 < minute ∨ 60 < second then .error .outOfRange
  let (offset, cs) ← offset cs
  if cs ≠ [] then .error .trailing
  if 24 * 60 ≤ offset.natAbs then .error .outOfRange
  let (second, nanos) := if second = 60 then (59, nanos + Instant.perSecond) else (second, nanos)
  return ⟨date.toDays * Instant.secondsPerDay + (hour * 3600 + minute * 60 + second : Nat)
    - offset * 60, nanos⟩

end HstsPreload.Rfc3339
