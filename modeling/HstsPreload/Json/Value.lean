import HstsPreload.Json.Binary64

/-!
JSON values and their two written forms: compact, and indented by two spaces.
-/

namespace HstsPreload.Json

open HstsPreload.Text

/-- A number as it is kept: whole if it fits 64 bits, else the nearest binary64 value. -/
inductive Number where
  | natural (n : Nat)
  | negative (n : Nat)
  | real (minus : Bool) (x : Binary64)
  deriving Repr, DecidableEq

def Number.text : Number → List Char
  | .natural n => decimalText n
  | .negative n => '-' :: decimalText n
  | .real minus x => if minus then '-' :: x.text else x.text

/-- A JSON value; objects keep the order of their members. -/
inductive Value where
  | null
  | bool (b : Bool)
  | number (n : Number)
  | string (s : String)
  | list (items : List Value)
  | object (members : List (String × Value))
  deriving Repr

/-- A character within quotation marks: the marks themselves, backslashes and controls are escaped. -/
def escapeChar (c : Char) : List Char :=
  if c = '"' then ['\\', '"']
  else if c = '\\' then ['\\', '\\']
  else if c.toNat = 8 then ['\\', 'b']
  else if c = '\t' then ['\\', 't']
  else if c = '\n' then ['\\', 'n']
  else if c.toNat = 12 then ['\\', 'f']
  else if c = '\r' then ['\\', 'r']
  else if c.toNat < 32 then
    ['\\', 'u', '0', '0', lowerHexDigit (c.toNat / 16), lowerHexDigit (c.toNat % 16)]
  else [c]

/-- A text as a JSON string. -/
def stringText (s : String) : List Char :=
  '"' :: s.toList.flatMap escapeChar ++ ['"']

def boolText (b : Bool) : List Char :=
  if b then ['t', 'r', 'u', 'e'] else ['f', 'a', 'l', 's', 'e']

def nullText : List Char :=
  ['n', 'u', 'l', 'l']

namespace Value

mutual

def compact : Value → List Char
  | .null => nullText
  | .bool b => boolText b
  | .number n => n.text
  | .string s => stringText s
  | .list items => '[' :: compactItems items ++ [']']
  | .object members => '\x7b' :: compactMembers members ++ ['\x7d']

def compactItems : List Value → List Char
  | [] => []
  | [v] => compact v
  | v :: w :: more => compact v ++ ',' :: compactItems (w :: more)

def compactMembers : List (String × Value) → List Char
  | [] => []
  | [(k, v)] => stringText k ++ ':' :: compact v
  | (k, v) :: m :: more => stringText k ++ ':' :: compact v ++ ',' :: compactMembers (m :: more)

end

/-- A line feed and two spaces for each level. -/
def newline (level : Nat) : List Char :=
  '\n' :: List.replicate (2 * level) ' '

mutual

/-- The indented form of a value at a level; empty lists and objects stay on one line. -/
def indented (level : Nat) : Value → List Char
  | .null => nullText
  | .bool b => boolText b
  | .number n => n.text
  | .string s => stringText s
  | .list [] => ['[', ']']
  | .list (v :: more) => '[' :: indentedItems (level + 1) (v :: more) ++ newline level ++ [']']
  | .object [] => ['\x7b', '\x7d']
  | .object (m :: more) =>
    '\x7b' :: indentedMembers (level + 1) (m :: more) ++ newline level ++ ['\x7d']

/-- Items, each on its own lines. -/
def indentedItems (level : Nat) : List Value → List Char
  | [] => []
  | [v] => newline level ++ indented level v
  | v :: w :: more => newline level ++ indented level v ++ ',' :: indentedItems level (w :: more)

def indentedMembers (level : Nat) : List (String × Value) → List Char
  | [] => []
  | [(k, v)] => newline level ++ stringText k ++ ':' :: ' ' :: indented level v
  | (k, v) :: m :: more =>
    newline level ++ stringText k ++ ':' :: ' ' :: indented level v
      ++ ',' :: indentedMembers level (m :: more)

end

def render (v : Value) : String :=
  .ofList v.compact

def renderIndented (v : Value) : String :=
  .ofList (v.indented 0)

end Value

end HstsPreload.Json
