import HstsPreload.Json.Fault

/-!
The parts that JSON readers are made of. A reader takes what is unread and gives a value with what is
then unread, or a refusal.
-/

namespace HstsPreload.Json

open HstsPreload.Text

/-- A reader of values of type `α`. -/
abbrev Reader (α : Type) : Type :=
  List Char → Except Fault (α × List Char)

/-- Whether a character may stand between tokens. -/
def isSpace (c : Char) : Bool :=
  c == ' ' || c == '\n' || c == '\t' || c == '\r'

/-- Drops the spaces before the next token. -/
def skipSpace (cs : List Char) : List Char :=
  cs.dropWhile isSpace

/-- Reads the rest of a word after its first character. -/
def readWord : List Char → List Char → Except Fault (List Char)
  | [], cs => .ok cs
  | _ :: _, [] => .error (faultAt .eofInValue [])
  | w :: word, c :: rest =>
    if w = c then readWord word rest else .error (faultNext .expectedWord (c :: rest))

/-- The places within a string. -/
inductive StringState where
  /-- Between characters. -/
  | plain
  /-- After a backslash. -/
  | escaped
  /-- After `\u`, with `left` digits to come, the number so far, and a leading surrogate if one came
  before. -/
  | digits (left : Nat) (n : Nat) (leading : Option Nat)
  /-- After a leading surrogate, where a backslash must follow. -/
  | paired (leading : Nat)
  /-- After a leading surrogate and a backslash, where `u` must follow. -/
  | pairedEscape (leading : Nat)
  deriving Repr, DecidableEq

/-- The character for a backslash and a letter other than `u`. -/
def simpleEscape? (c : Char) : Option Char :=
  if c = '"' then some '"'
  else if c = '\\' then some '\\'
  else if c = '/' then some '/'
  else if c = 'b' then some (.ofNat 8)
  else if c = 'f' then some (.ofNat 12)
  else if c = 'n' then some '\n'
  else if c = 'r' then some '\r'
  else if c = 't' then some '\t'
  else none

/-- The refusal of an escape of which `left` digits should still come: its four bytes count as read,
unless the text ends before. -/
def hexFault (left : Nat) (rest : List Char) : Fault :=
  if left ≤ Utf8.size rest then ⟨.invalidEscape, rest, left⟩ else faultAt .eofInString []

/-- What four digits amount to, after a leading surrogate if there was one. -/
inductive Unit16 where
  | char (c : Char)
  | leading (n : Nat)
  | lone

/-- Classifies a number of 16 bits. -/
def Unit16.of (n : Nat) : Option Nat → Unit16
  | none =>
    if 0xd800 ≤ n ∧ n < 0xdc00 then .leading n
    else if 0xdc00 ≤ n ∧ n < 0xe000 then .lone
    else .char (.ofNat n)
  | some high =>
    if 0xdc00 ≤ n ∧ n < 0xe000 then
      .char (.ofNat (0x10000 + (high - 0xd800) * 1024 + (n - 0xdc00)))
    else .lone

/-- Reads a string after its opening mark; `done` holds the characters so far, last first. -/
def readStringFrom (done : List Char) : StringState → Reader (List Char)
  | .escaped, c :: rest =>
    if c = 'u' then readStringFrom done (.digits 4 0 none) rest
    else
      match simpleEscape? c with
      | some e => readStringFrom (e :: done) .plain rest
      | none => .error (faultNext .invalidEscape (c :: rest))
  | .digits left n leading, c :: rest =>
    match hexDigit? c with
    | none => .error (hexFault left (c :: rest))
    | some d =>
      if 1 < left then readStringFrom done (.digits (left - 1) (16 * n + d) leading) rest
      else
        match Unit16.of (16 * n + d) leading with
        | .char e => readStringFrom (e :: done) .plain rest
        | .leading l => readStringFrom done (.paired l) rest
        | .lone => .error (faultAt .loneSurrogate rest)
  | .paired l, c :: rest =>
    if c = '\\' then readStringFrom done (.pairedEscape l) rest
    else .error (faultNext .endOfHexEscape (c :: rest))
  | .pairedEscape l, c :: rest =>
    if c = 'u' then readStringFrom done (.digits 4 0 (some l)) rest
    else .error (faultNext .endOfHexEscape (c :: rest))
  | .plain, c :: rest =>
    if c = '"' then .ok (done.reverse, rest)
    else if c = '\\' then readStringFrom done .escaped rest
    else if c.toNat < 32 then .error (faultNext .controlCharacter (c :: rest))
    else readStringFrom (c :: done) .plain rest
  | _, [] => .error (faultAt .eofInString [])

/-- Reads a string after its opening mark. -/
def readStringTail : Reader String := fun cs => do
  let (text, rest) ← readStringFrom [] .plain cs
  return (.ofList text, rest)

/-- Passes over a string after its opening mark without asking whether its surrogates pair up. -/
def skipString : StringState → List Char → Except Fault (List Char)
  | .escaped, c :: rest =>
    if c = 'u' then skipString (.digits 4 0 none) rest
    else if (simpleEscape? c).isSome then skipString .plain rest
    else .error (faultNext .invalidEscape (c :: rest))
  | .digits left n _, c :: rest =>
    if (hexDigit? c).isNone then .error (hexFault left (c :: rest))
    else if 1 < left then skipString (.digits (left - 1) n none) rest
    else skipString .plain rest
  | _, c :: rest =>
    if c = '"' then .ok rest
    else if c = '\\' then skipString .escaped rest
    else if c.toNat < 32 then .error (faultAt .controlCharacter (c :: rest))
    else skipString .plain rest
  | _, [] => .error (faultAt .eofInString [])

/-- Reads the colon after a key. -/
def readColon (cs : List Char) : Except Fault (List Char) :=
  match skipSpace cs with
  | ':' :: rest => .ok rest
  | [] => .error (faultNext .eofInObject [])
  | rest => .error (faultNext .expectedColon rest)

/-- Goes to the next item of a list: what is unread is the item, or nothing if the list ends. -/
def nextItem (first : Bool) (cs : List Char) : Except Fault (Option (List Char) × List Char) :=
  match skipSpace cs with
  | [] => .error (faultNext .eofInList [])
  | ']' :: rest => .ok (none, ']' :: rest)
  | c :: rest =>
    if first then .ok (some (c :: rest), c :: rest)
    else if c = ',' then
      match skipSpace rest with
      | [] => .error (faultNext .eofInValue [])
      | ']' :: more => .error (faultNext .trailingComma (']' :: more))
      | item => .ok (some item, item)
    else .error (faultNext .expectedListEnd (c :: rest))

/-- Goes to the next key of an object: what is unread is the key after its opening mark, or nothing
if the object ends. -/
def nextKey (first : Bool) (cs : List Char) : Except Fault (Option (List Char) × List Char) :=
  match skipSpace cs with
  | [] => .error (faultNext .eofInObject [])
  | '\x7d' :: rest => .ok (none, '\x7d' :: rest)
  | c :: rest =>
    if first then
      if c = '"' then .ok (some rest, rest) else .error (faultNext .keyNotString (c :: rest))
    else if c = ',' then
      match skipSpace rest with
      | [] => .error (faultNext .eofInValue [])
      | '"' :: key => .ok (some key, key)
      | '\x7d' :: more => .error (faultNext .trailingComma ('\x7d' :: more))
      | other => .error (faultNext .keyNotString other)
    else .error (faultNext .expectedObjectEnd (c :: rest))

def endList (cs : List Char) : Except Fault (List Char) :=
  match skipSpace cs with
  | ']' :: rest => .ok rest
  | ',' :: rest =>
    match skipSpace rest with
    | ']' :: more => .error (faultNext .trailingComma (']' :: more))
    | other => .error (faultNext .trailingCharacters other)
  | [] => .error (faultNext .eofInList [])
  | rest => .error (faultNext .trailingCharacters rest)

/-- What is unread once the end of a list has been looked for. -/
def pastListEnd (cs : List Char) : List Char :=
  match skipSpace cs with
  | ']' :: rest => rest
  | ',' :: rest => skipSpace rest
  | rest => rest

def pastObjectEnd (cs : List Char) : List Char :=
  match skipSpace cs with
  | '\x7d' :: rest => rest
  | rest => rest

/-- Reads a whole text with a reader: only spaces may follow. -/
def readAll {α : Type} (read : Reader α) (text : String) : Except Error α :=
  let cs := text.toList
  match read cs with
  | .error f => .error (f.locate cs)
  | .ok (value, rest) =>
    match skipSpace rest with
    | [] => .ok value
    | more => .error ((faultNext .trailingCharacters more).locate cs)

end HstsPreload.Json
