import HstsPreload.Json.Typed

/-!
Reading any value, and looking at one that has been read. Lists and objects may nest a limited
number of levels.
-/

namespace HstsPreload.Json

/-- How deep values may nest. -/
def depthLimit : Nat := 128

mutual

/-- Reads any value; `depth` more levels may open, and the fuel is for what is read. -/
def readAnyFrom : Nat → Nat → List Char → Except Fault (Value × List Char)
  | 0, _, cs => .error (faultNext .expectedValue cs)
  | fuel + 1, depth, cs =>
    match skipSpace cs with
    | [] => .error (faultNext .eofInValue [])
    | 'n' :: rest => do return (.null, ← readWord ['u', 'l', 'l'] rest)
    | 't' :: rest => do return (.bool true, ← readWord ['r', 'u', 'e'] rest)
    | 'f' :: rest => do return (.bool false, ← readWord ['a', 'l', 's', 'e'] rest)
    | '"' :: rest => do
      let (s, rest) ← readStringTail rest
      return (.string s, rest)
    | '[' :: rest =>
      if depth ≤ 1 then .error (faultNext .tooDeep ('[' :: rest))
      else do
        let (items, rest) ← readAnyItems fuel (depth - 1) [] rest
        return (.list items, ← endList rest)
    | '\x7b' :: rest =>
      if depth ≤ 1 then .error (faultNext .tooDeep ('\x7b' :: rest))
      else do
        let (members, rest) ← readAnyMembers fuel (depth - 1) [] rest
        return (.object members, pastObjectEnd rest)
    | c :: rest =>
      if c = '-' ∨ c.isDigit then do
        let (n, rest) ← readNumber (c :: rest)
        return (.number n, rest)
      else .error (faultNext .expectedValue (c :: rest))

/-- Reads items of any kind; `done` holds those so far, last first. -/
def readAnyItems : Nat → Nat → List Value → List Char → Except Fault (List Value × List Char)
  | 0, _, done, cs => .ok (done.reverse, cs)
  | fuel + 1, depth, done, cs => do
    match ← nextItem done.isEmpty cs with
    | (none, rest) => return (done.reverse, rest)
    | (some item, _) =>
      let (v, rest) ← readAnyFrom fuel depth item
      readAnyItems fuel depth (v :: done) rest

/-- Reads members of any kind; `done` holds those so far, last first. -/
def readAnyMembers : Nat → Nat → List (String × Value) → List Char →
    Except Fault (List (String × Value) × List Char)
  | 0, _, done, cs => .ok (done.reverse, cs)
  | fuel + 1, depth, done, cs => do
    match ← nextKey done.isEmpty cs with
    | (none, rest) => return (done.reverse, rest)
    | (some key, _) =>
      let (name, rest) ← readStringTail key
      let (v, rest) ← readAnyFrom fuel depth (← readColon rest)
      readAnyMembers fuel depth ((name, v) :: done) rest

end

/-- Reads any value of which `depth` more levels may open. -/
def readAny (depth : Nat) : Reader Value := fun cs =>
  readAnyFrom (2 * cs.length + 2) depth cs

namespace Value

/-- The refusal of a value that is not what was expected. -/
def refuse {α : Type} (v : Value) (expected : String) : Except Cause α :=
  .error (.invalidType (.ofValue v) expected)

def asString : Value → Except Cause String
  | .string s => .ok s
  | v => v.refuse "a string"

def asBool : Value → Except Cause Bool
  | .bool b => .ok b
  | v => v.refuse "a boolean"

/-- The value as one of a few words: the word itself, or an object with the word as its one key and
nothing as its value. -/
def asWord {α : Type} (w : Words α) : Value → Except Cause α
  | .string s => named s
  | .object [(s, payload)] => do
    let a ← named s
    match payload with
    | .null => .ok a
    | .object [] => .ok a
    | v => v.refuse "unit"
  | .object members => .error (.invalidValue (.ofValue (.object members)) "map with a single key")
  | v => v.refuse "string or map"
where
  /-- The value a word stands for. -/
  named (s : String) : Except Cause α :=
    match w.find? s with
    | some a => .ok a
    | none => .error (w.unknown s)

end Value

end HstsPreload.Json
