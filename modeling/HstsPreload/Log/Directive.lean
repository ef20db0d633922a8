import HstsPreload.Log.Level
import HstsPreload.Unicode.Alphanumeric

/-!
Directives of a log filter: a level, and where it holds. The full form is `target[span{field}]=level`,
in which every part may be missing.
-/

namespace HstsPreload.Log

open HstsPreload.Text

/-- What the value of a field must be. -/
inductive FieldValue where
  | bool (b : Bool)
  | natural (n : Nat)
  | integer (n : Int)
  | pattern (text : List Char)
  deriving Repr, DecidableEq

namespace FieldValue

/-- Reads a value as the first kind that it fits. -/
def ofText (cs : List Char) : FieldValue :=
  if cs = ['t', 'r', 'u', 'e'] then .bool true
  else if cs = ['f', 'a', 'l', 's', 'e'] then .bool false
  else
    match readNat (UInt64.size - 1) cs, readInt64 cs with
    | .ok n, _ => .natural n
    | .error _, .ok n => .integer n
    | .error _, .error _ => .pattern cs

def text : FieldValue → List Char
  | .bool b => if b then ['t', 'r', 'u', 'e'] else ['f', 'a', 'l', 's', 'e']
  | .natural n => decimalText n
  | .integer n => (if n < 0 then ['-'] else []) ++ decimalText n.natAbs
  | .pattern cs => cs

def rank : FieldValue → Nat
  | .bool _ => 0
  | .natural _ => 1
  | .integer _ => 2
  | .pattern _ => 3

/-- Values by kind, and within a kind by size or text. -/
def order (a b : FieldValue) : Ordering :=
  match a, b with
  | .bool a, .bool b => compare a b
  | .natural a, .natural b => compare a b
  | .integer a, .integer b => compare a b
  | .pattern a, .pattern b => compare (String.ofList a) (String.ofList b)
  | a, b => compare a.rank b.rank

end FieldValue

/-- A field that must be there, with a value if one is given. -/
structure FieldMatch where
  name : String
  value : Option FieldValue := none
  deriving Repr, DecidableEq

namespace FieldMatch

/-- Reads a field; what follows a second equals sign does not count. -/
def ofText (cs : List Char) : FieldMatch :=
  let name := cs.takeWhile (· ≠ '=')
  match cs.drop name.length with
  | [] => ⟨.ofList name, none⟩
  | _ :: value => ⟨.ofList name, some (.ofText (value.takeWhile (· ≠ '=')))⟩

def text (f : FieldMatch) : List Char :=
  f.name.toList ++ match f.value with
    | some v => '=' :: v.text
    | none => []

/-- Fields with a value come after those without, then names decide. -/
def order (a b : FieldMatch) : Ordering :=
  match a.value, b.value with
  | some v, some w => (compare a.name b.name).then (v.order w)
  | some _, none => .gt
  | none, some _ => .lt
  | none, none => compare a.name b.name

end FieldMatch

structure Directive where
  target : Option String := none
  span : Option String := none
  field : Option FieldMatch := none
  level : Level := .trace
  deriving Repr, DecidableEq, Inhabited

/-- Why a directive is refused. -/
inductive DirectiveFault where
  | malformed
  | unknownLevel
  deriving Repr, DecidableEq

def DirectiveFault.message : DirectiveFault → String
  | .malformed => "invalid filter directive"
  | .unknownLevel =>
    "error parsing level filter: expected one of \"off\", \"error\", \"warn\", \"info\", "
      ++ "\"debug\", \"trace\", or a number 0-5"

namespace Directive

/-- Where reading is; the numbers say at which character a part starts. -/
inductive State where
  | start
  | word
  | span (start : Nat)
  | field (start : Nat)
  | fieldEnd
  | target
  | level (start : Nat)
  deriving Repr, DecidableEq

/-- Whether a directive may start with a character. -/
def mayStart (c : Char) : Bool :=
  c == '-' || c == ':' || c == '_' || Unicode.isAlphanumeric c

/-- The characters from one place to another. -/
def part (cs : List Char) (start stop : Nat) : List Char :=
  (cs.take stop).drop start

/-- Reads character `c` at place `i` of a directive. -/
def step (cs : List Char) (d : Directive) (i : Nat) (c : Char) :
    State → Except DirectiveFault (Directive × State)
  | .start =>
    if c = '[' then .ok (d, .span (i + 1))
    else if mayStart c then .ok (d, .word)
    else .error .malformed
  | .word =>
    if c = '=' then .ok ({ d with target := some (.ofList (part cs 0 i)) }, .level (i + 1))
    else if c = '[' then .ok ({ d with target := some (.ofList (part cs 0 i)) }, .span (i + 1))
    else .ok (d, .word)
  | .span start =>
    if c = ']' then .ok ({ d with span := some (.ofList (part cs start i)) }, .target)
    else if c = '\x7b' then
      let name := part cs start i
      .ok ({ d with span := if name = [] then none else some (.ofList name) }, .field (i + 1))
    else .ok (d, .span start)
  | .field start =>
    if c = '\x7d' then
      let field := part cs start i
      if field = [] then .error .malformed
      else .ok ({ d with field := some (.ofText field) }, .fieldEnd)
    else .ok (d, .field start)
  | .fieldEnd => if c = ']' then .ok (d, .target) else .error .malformed
  | .target => if c = '=' then .ok (d, .level (i + 1)) else .error .malformed
  | .level start => .ok (d, .level start)

/-- Reads characters from place `i` on. -/
def steps (cs : List Char) : Nat → Directive × State → List Char →
    Except DirectiveFault (Directive × State)
  | _, place, [] => .ok place
  | i, (d, s), c :: rest => do steps cs (i + 1) (← step cs d i c s) rest

/-- Ends a directive. One word is a level if it can be, and otherwise a target of which all is logged;
so is a target without a level. -/
def finish (cs : List Char) (d : Directive) : State → Except DirectiveFault Directive
  | .word =>
    match Level.ofText? cs with
    | some level => .ok { level }
    | none => .ok { target := some (.ofList cs) }
  | .target => .ok d
  | .level start =>
    let level := cs.drop start
    if level = [] then .ok d
    else
      match Level.ofText? level with
      | some level => .ok { d with level }
      | none => .error .unknownLevel
  | _ => .error .malformed

/-- Reads a directive. Blanks around it are passed over when its marks are looked for, but count when
its parts are cut out. -/
def parse (cs : List Char) : Except DirectiveFault Directive := do
  let (d, s) ← steps cs 0 ({}, .start) (trim cs)
  finish cs d s

/-- Whether the place where a directive holds depends on what is going on when it is applied. -/
def isDynamic (d : Directive) : Bool :=
  d.span.isSome || d.field.isSome

/-- Whether a directive can be applied ahead of time: it asks for no span and no value. -/
def isStatic (d : Directive) : Bool :=
  d.span.isNone && (d.field.bind FieldMatch.value).isNone

def text (d : Directive) : List Char :=
  let place := (d.target.getD "").toList
    ++ if d.isDynamic then
        '[' :: (d.span.getD "").toList
          ++ (match d.field with
            | some f => '\x7b' :: f.text ++ ['\x7d']
            | none => [])
          ++ [']']
      else []
  if d.target.isSome || d.isDynamic then place ++ '=' :: d.level.text.toList
  else d.level.text.toList

end Directive

end HstsPreload.Log
