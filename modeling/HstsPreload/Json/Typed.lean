import HstsPreload.Json.Skip

/-!
Readers of one kind of value each. A value of another kind is refused by what it is; one that takes
characters to recognise is read first, a list or an object is not.
-/

namespace HstsPreload.Json

open HstsPreload.Text

/-- Refuses the value that comes next for not being what was expected. -/
def refuseType {α : Type} (expected : String) (cs : List Char) : Except Fault (α × List Char) :=
  match cs with
  | 'n' :: rest => do
    .error (faultAt (.invalidType .null expected) (← readWord ['u', 'l', 'l'] rest))
  | 't' :: rest => do
    .error (faultAt (.invalidType (.bool true) expected) (← readWord ['r', 'u', 'e'] rest))
  | 'f' :: rest => do
    .error (faultAt (.invalidType (.bool false) expected) (← readWord ['a', 'l', 's', 'e'] rest))
  | '"' :: rest => do
    let (s, rest) ← readStringTail rest
    .error (faultAt (.invalidType (.string s) expected) rest)
  | '[' :: _ => .error (faultAt (.invalidType .list expected) cs)
  | '\x7b' :: _ => .error (faultAt (.invalidType .object expected) cs)
  | c :: _ =>
    if c = '-' ∨ c.isDigit then do
      let (n, rest) ← readNumber cs
      .error (faultAt (.invalidType (.number n) expected) rest)
    else .error (faultNext .expectedValue cs)
  | [] => .error (faultNext .eofInValue [])

def readString : Reader String := fun cs =>
  match skipSpace cs with
  | '"' :: rest => readStringTail rest
  | other => refuseType "a string" other

def readBool : Reader Bool := fun cs =>
  match skipSpace cs with
  | 't' :: rest => do return (true, ← readWord ['r', 'u', 'e'] rest)
  | 'f' :: rest => do return (false, ← readWord ['a', 'l', 's', 'e'] rest)
  | other => refuseType "a boolean" other

/-- Reads nothing or a string. -/
def readOptionalString : Reader (Option String) := fun cs =>
  match skipSpace cs with
  | 'n' :: rest => do return (none, ← readWord ['u', 'l', 'l'] rest)
  | other => do
    let (s, rest) ← readString other
    return (some s, rest)

/-- One of a few values that are written as words. -/
structure Words (α : Type) where
  all : List α
  text : α → String

def Words.find? {α : Type} (w : Words α) (word : String) : Option α :=
  w.all.find? fun a => w.text a == word

/-- The refusal of a word that stands for nothing. -/
def Words.unknown {α : Type} (w : Words α) (word : String) : Cause :=
  .unknownVariant word (w.all.map w.text)

/-- Reads a word that stands for a value. -/
def Words.readName {α : Type} (w : Words α) (cs : List Char) : Except Fault (α × List Char) := do
  let (word, rest) ← readStringTail cs
  match w.find? word with
  | some a => .ok (a, rest)
  | none => .error (faultAt (w.unknown word) rest)

/-- Reads the word for nothing. -/
def readNull (cs : List Char) : Except Fault (List Char) :=
  match skipSpace cs with
  | 'n' :: rest => readWord ['u', 'l', 'l'] rest
  | other => do return (← refuseType (α := Unit) "unit" other).2

/-- Reads one of the values: its word, or an object with the word as its one key and null. -/
def Words.read {α : Type} (w : Words α) : Reader α := fun cs =>
  match skipSpace cs with
  | [] => .error (faultNext .eofInValue [])
  | '"' :: rest => w.readName rest
  | '\x7b' :: rest =>
    match skipSpace rest with
    | '"' :: name => do
      let (a, rest) ← w.readName name
      let rest ← readNull (← readColon rest)
      match skipSpace rest with
      | '\x7d' :: rest => .ok (a, rest)
      | [] => .error (faultAt .eofInObject [])
      | other => .error (faultAt .expectedValue other)
    | other => refuseType "variant identifier" other
  | other => .error (faultNext .expectedValue other)

/-- Reads items until the list ends, with fuel for the items; `done` holds those so far, last
first. -/
def readItems {α : Type} (read : Reader α) : Nat → List α → List Char → Except Fault (List α × List Char)
  | 0, done, cs => .ok (done.reverse, cs)
  | fuel + 1, done, cs => do
    match ← nextItem done.isEmpty cs with
    | (none, rest) => return (done.reverse, rest)
    | (some item, _) =>
      let (a, rest) ← read item
      readItems read fuel (a :: done) rest

def readList {α : Type} (read : Reader α) : Reader (List α) := fun cs =>
  match skipSpace cs with
  | '[' :: rest => do
    let (items, rest) ← readItems read (rest.length + 1) [] rest
    return (items, ← endList rest)
  | other => refuseType "a sequence" other

end HstsPreload.Json
