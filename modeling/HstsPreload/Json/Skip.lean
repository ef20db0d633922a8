import HstsPreload.Json.Number

/-!
Passing over a value that nobody asked for. Nesting may be arbitrarily deep: the lists and objects
that are open stand on a stack.
-/

namespace HstsPreload.Json

open HstsPreload.Text

/-- What is open around a value. -/
inductive Frame where
  | list
  | object
  deriving Repr, DecidableEq

/-- The refusal of a text that ends inside. -/
def Frame.eof : Frame → Cause
  | .list => .eofInList
  | .object => .eofInObject

/-- The refusal of what is neither a comma nor the end. -/
def Frame.unfinished : Frame → Cause
  | .list => .expectedListEnd
  | .object => .expectedObjectEnd

/-- The character that ends a list or object. -/
def Frame.closer : Frame → Char
  | .list => ']'
  | .object => '\x7d'

/-- What is expected next. -/
inductive Expected where
  | value
  /-- After the opening of the innermost frame, or after something in it; then a comma may follow. -/
  | more (comma : Bool)
  deriving Repr, DecidableEq

/-- Passes over a key with its colon where the innermost frame is an object. -/
def skipKey (frame : Frame) (cs : List Char) : Except Fault (List Char) :=
  match frame with
  | .list => .ok cs
  | .object =>
    match skipSpace cs with
    | '"' :: rest => do readColon (← skipString .plain rest)
    | [] => .error (faultNext .eofInObject [])
    | other => .error (faultNext .keyNotString other)

/-- Passes over values until the stack is empty, with fuel for the steps. -/
def skipFrom : Nat → Expected → List Frame → List Char → Except Fault (List Char)
  | 0, _, _, cs => .error (faultAt .expectedValue cs)
  | fuel + 1, .value, stack, cs =>
    match skipSpace cs with
    | [] => .error (faultNext .eofInValue [])
    | 'n' :: rest => do skipFrom fuel (.more true) stack (← readWord ['u', 'l', 'l'] rest)
    | 't' :: rest => do skipFrom fuel (.more true) stack (← readWord ['r', 'u', 'e'] rest)
    | 'f' :: rest => do skipFrom fuel (.more true) stack (← readWord ['a', 'l', 's', 'e'] rest)
    | '-' :: rest => do skipFrom fuel (.more true) stack (← skipUnsigned rest)
    | '"' :: rest => do skipFrom fuel (.more true) stack (← skipString .plain rest)
    | '[' :: rest => skipFrom fuel (.more false) (.list :: stack) rest
    | '\x7b' :: rest => skipFrom fuel (.more false) (.object :: stack) rest
    | c :: rest =>
      if c.isDigit then do skipFrom fuel (.more true) stack (← skipUnsigned (c :: rest))
      else .error (faultNext .expectedValue (c :: rest))
  | _ + 1, .more _, [], cs => .ok cs
  | fuel + 1, .more comma, frame :: stack, cs =>
    match skipSpace cs with
    | [] => .error (faultNext frame.eof [])
    | c :: rest =>
      if comma ∧ c = ',' then do skipFrom fuel .value (frame :: stack) (← skipKey frame rest)
      else if c = frame.closer then skipFrom fuel (.more true) stack rest
      else if comma then .error (faultNext frame.unfinished (c :: rest))
      else do skipFrom fuel .value (frame :: stack) (← skipKey frame (c :: rest))

def skipValue (cs : List Char) : Except Fault (List Char) :=
  skipFrom (2 * cs.length + 2) .value [] cs

end HstsPreload.Json
