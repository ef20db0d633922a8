import HstsPreload.Json.Reader

/-!
Reading numbers: the digits that fit 64 bits are kept and the others only counted.
-/

namespace HstsPreload.Json

open HstsPreload.Text

/-- The largest whole number that is kept exactly. -/
def largestNatural : Nat := UInt64.size - 1

/-- The digits at the front and what follows them. -/
def spanDigits (cs : List Char) : List Char × List Char :=
  (cs.takeWhile Char.isDigit, cs.dropWhile Char.isDigit)

/-- Digits taken onto a number while it fits 64 bits, with how many were taken. -/
def takeDigits (n taken : Nat) : List Char → Nat × Nat
  | [] => (n, taken)
  | c :: rest =>
    let next := 10 * n + (c.toNat - '0'.toNat)
    if largestNatural < next then (n, taken) else takeDigits next (taken + 1) rest

/-- A number with an exponent as it is kept. -/
def ofParts (minus : Bool) (digits : Nat) (exponent : Int) (rest : List Char) :
    Except Fault (Number × List Char) :=
  match Binary64.ofDecimal digits exponent with
  | some x => .ok (.real minus x, rest)
  | none => .error (faultAt .numberOutOfRange rest)

/-- Reads the digits of an exponent onto `n`; `none` stands for one that does not fit 32 bits, with
what is unread after the digit that went too far. -/
def exponentDigits (n : Nat) : List Char → Option Nat × List Char
  | [] => (some n, [])
  | c :: rest =>
    if c.isDigit then
      let next := 10 * n + (c.toNat - '0'.toNat)
      if Nat.pow 2 31 ≤ next then (none, rest) else exponentDigits next rest
    else (some n, c :: rest)

def readExponent (minus : Bool) (digits : Nat) (exponent : Int) (cs : List Char) :
    Except Fault (Number × List Char) :=
  let (down, cs) : Bool × List Char :=
    match cs with
    | '+' :: rest => (false, rest)
    | '-' :: rest => (true, rest)
    | _ => (false, cs)
  match cs with
  | [] => .error (faultAt .eofInValue [])
  | c :: rest =>
    if !c.isDigit then .error (faultNext .invalidNumber (c :: rest))
    else
      match exponentDigits 0 (c :: rest) with
      | (some n, rest) =>
        ofParts minus digits (if down then exponent - n else exponent + n) rest
      | (none, rest) =>
        if digits ≠ 0 ∧ !down then .error (faultAt .numberOutOfRange rest)
        else .ok (.real minus .zero, rest.dropWhile Char.isDigit)

def readFraction (minus : Bool) (digits dropped : Nat) (cs : List Char) :
    Except Fault (Number × List Char) :=
  match spanDigits cs with
  | ([], []) => .error (faultNext .eofInValue [])
  | ([], rest) => .error (faultNext .invalidNumber rest)
  | (places, rest) =>
    let (digits, taken) := takeDigits digits 0 places
    let exponent : Int := (dropped : Int) - taken
    match rest with
    | 'e' :: more => readExponent minus digits exponent more
    | 'E' :: more => readExponent minus digits exponent more
    | _ => ofParts minus digits exponent rest

/-- A whole number as it is kept; minus zero has a sign only as a binary64 value. -/
def ofWhole (minus : Bool) (digits : Nat) (rest : List Char) : Except Fault (Number × List Char) :=
  if !minus then .ok (.natural digits, rest)
  else if digits = 0 ∨ Nat.pow 2 63 < digits then ofParts true digits 0 rest
  else .ok (.negative digits, rest)

/-- Reads what may follow whole digits, of which `dropped` were only counted. -/
def afterWhole (minus : Bool) (digits dropped : Nat) (cs : List Char) :
    Except Fault (Number × List Char) :=
  match cs with
  | '.' :: rest => readFraction minus digits dropped rest
  | 'e' :: rest => readExponent minus digits dropped rest
  | 'E' :: rest => readExponent minus digits dropped rest
  | _ => if dropped = 0 then ofWhole minus digits cs else ofParts minus digits dropped cs

/-- Reads a number without its sign. -/
def readUnsigned (minus : Bool) : Reader Number
  | [] => .error (faultAt .eofInValue [])
  | '0' :: rest =>
    match rest with
    | c :: _ =>
      if c.isDigit then .error (faultNext .invalidNumber rest) else afterWhole minus 0 0 rest
    | [] => afterWhole minus 0 0 rest
  | c :: rest =>
    if c.isDigit then
      let (whole, after) := spanDigits (c :: rest)
      let (digits, taken) := takeDigits 0 0 whole
      afterWhole minus digits (whole.length - taken) after
    else .error (faultNext .invalidNumber (c :: rest))

def readNumber : Reader Number
  | '-' :: rest => readUnsigned true rest
  | cs => readUnsigned false cs

/-- Passes over an exponent after its letter. -/
def skipExponent (cs : List Char) : Except Fault (List Char) :=
  let cs :=
    match cs with
    | '+' :: rest => rest
    | '-' :: rest => rest
    | _ => cs
  match spanDigits cs with
  | ([], rest) => .error (faultNext .invalidNumber rest)
  | (_, rest) => .ok rest

/-- Passes over what may follow places after the point. -/
def skipPower (cs : List Char) : Except Fault (List Char) :=
  match cs with
  | 'e' :: rest => skipExponent rest
  | 'E' :: rest => skipExponent rest
  | _ => .ok cs

/-- Passes over what may follow whole digits. -/
def skipAfterWhole (cs : List Char) : Except Fault (List Char) :=
  match cs with
  | '.' :: rest =>
    match spanDigits rest with
    | ([], more) => .error (faultNext .invalidNumber more)
    | (_, more) => skipPower more
  | _ => skipPower cs

/-- Passes over a number without its sign, whatever its size. -/
def skipUnsigned : List Char → Except Fault (List Char)
  | '0' :: rest =>
    match rest with
    | c :: _ => if c.isDigit then .error (faultNext .invalidNumber rest) else skipAfterWhole rest
    | [] => .ok []
  | cs =>
    match spanDigits cs with
    | ([], rest) => .error (faultNext .invalidNumber rest)
    | (_, rest) => skipAfterWhole rest

end HstsPreload.Json
