import HstsPreload.Host.Basic
import HstsPreload.Text.Blank
import HstsPreload.Text.Digits

/-!
Absolute URLs and the one way each is written: the scheme in lower case, the host in its own form, no
default port, no dot segments, and other characters percent-encoded where they must be.
-/

namespace HstsPreload.Web

open HstsPreload.Text

/-- What a URL points to before its path. -/
structure Authority where
  /-- The user name with a colon and the password if there are any, encoded. -/
  userInfo : Option (List Char)
  host : List Char
  port : Option Nat
  deriving Repr, DecidableEq

/-- An absolute URL. -/
structure Url where
  scheme : List Char
  authority : Option Authority
  path : List Char
  query : Option (List Char)
  fragment : Option (List Char)
  deriving Repr, DecidableEq

namespace Url

/-- Why a text is no absolute URL. -/
inductive Fault where
  | relative
  | host (fault : Host.Fault)
  | invalidPort
  | invalidHostCharacter
  deriving Repr, DecidableEq

def Fault.message : Fault → String
  | .relative => "relative URL without a base"
  | .host fault => fault.message
  | .invalidPort => "invalid port number"
  | .invalidHostCharacter => "invalid domain character"

/-- Schemes with a host and a hierarchical path, with their default ports. -/
def specialPort? (scheme : List Char) : Option Nat :=
  if scheme = ['h', 't', 't', 'p'] ∨ scheme = ['w', 's'] then some 80
  else if scheme = ['h', 't', 't', 'p', 's'] ∨ scheme = ['w', 's', 's'] then some 443
  else if scheme = ['f', 't', 'p'] then some 21
  else none

def fileScheme : List Char := ['f', 'i', 'l', 'e']

/-- Whether backslashes count as slashes. -/
def isSpecial (scheme : List Char) : Bool :=
  (specialPort? scheme).isSome || scheme == fileScheme

/-- Printable ASCII other than some characters. -/
def plainExcept (others : List Char) (c : Char) : Bool :=
  32 < c.toNat && c.toNat < 127 && !others.contains c

def inPath : Char → Bool :=
  plainExcept ['"', '#', '<', '>', '?', '^', '\x60', '\x7b', '\x7d']

/-- What stays as it is in a query; a special URL also encodes the apostrophe. -/
def inQuery (special : Bool) (c : Char) : Bool :=
  plainExcept ['"', '#', '<', '>'] c && !(special && c.toNat == 39)

def inFragment : Char → Bool :=
  plainExcept ['"', '<', '>', '\x60']

def inUserInfo : Char → Bool :=
  plainExcept ['"', '#', '<', '>', '?', '^', '\x60', '\x7b', '\x7d', '/', ':', ';', '=', '@', '[',
    '\\', ']', '|']

/-- What stays as it is in a path without hierarchy. -/
def inOpaque (c : Char) : Bool :=
  32 ≤ c.toNat && c.toNat < 127

def readScheme (cs : List Char) : Option (List Char × List Char) :=
  match cs with
  | [] => none
  | c :: _ =>
    if !c.isAlpha then none
    else
      match cs.dropWhile fun d => d.isAlphanum || d == '+' || d == '-' || d == '.' with
      | ':' :: rest =>
        some (lowerAscii (cs.take (cs.length - rest.length - 1)), rest)
      | _ => none

/-- Whether a character ends what stands before the path. -/
def endsAuthority (special : Bool) (c : Char) : Bool :=
  c == '/' || c == '?' || c == '#' || (special && c == '\\')

/-- Cuts at the last at sign. -/
def splitUserInfo (cs : List Char) : Option (List Char) × List Char :=
  if cs.contains '@' then
    let host := (cs.reverse.takeWhile (· ≠ '@')).reverse
    (some (cs.take (cs.length - host.length - 1)), host)
  else (none, cs)

/-- Cuts a host off the port after it; colons between brackets belong to the host. -/
def splitPort (bracketed : Bool) : List Char → List Char × Option (List Char)
  | [] => ([], none)
  | c :: rest =>
    if c = ':' ∧ !bracketed then ([], some rest)
    else
      let inside := if c = '[' then true else if c = ']' then false else bracketed
      let (host, port) := splitPort inside rest
      (c :: host, port)

/-- Reads the digits of a port onto `n`. -/
def readPort (n : Nat) : List Char → Except Fault Nat
  | [] => .ok n
  | c :: rest =>
    match decimalDigit? c with
    | none => .error .invalidPort
    | some d => if 65535 < 10 * n + d then .error .invalidPort else readPort (10 * n + d) rest

def userInfoText (cs : List Char) : Option (List Char) :=
  match splitOnce ':' cs with
  | some (user, []) => if user = [] then none else some (percentEncode inUserInfo user)
  | some (user, password) =>
    some (percentEncode inUserInfo user ++ ':' :: percentEncode inUserInfo password)
  | none => if cs = [] then none else some (percentEncode inUserInfo cs)

/-- Characters that no host outside special schemes holds. -/
def isForbiddenHost (c : Char) : Bool :=
  c.toNat == 0 || c == '\t' || c == '\n' || c == '\r' || c == ' ' || c == '#' || c == '/' || c == ':'
    || c == '<' || c == '>' || c == '?' || c == '@' || c == '[' || c == '\\' || c == ']' || c == '^'
    || c == '|'

def readHost (scheme cs : List Char) : Except Fault (List Char) :=
  if isSpecial scheme then
    if cs = [] then if scheme = fileScheme then .ok [] else .error (.host .empty)
    else
      match Host.parse cs with
      | .ok host =>
        if scheme = fileScheme ∧ host = .name "localhost".toList then .ok [] else .ok host.text
      | .error fault => .error (.host fault)
  else
    match cs with
    | '[' :: inside =>
      match Host.ofBracketed inside with
      | .ok host => .ok host.text
      | .error fault => .error (.host fault)
    | _ =>
      if cs.any isForbiddenHost then .error .invalidHostCharacter
      else .ok (percentEncode inOpaque cs)

/-- Reads what stands between two slashes and the path. -/
def readAuthority (scheme cs : List Char) : Except Fault Authority := do
  let (user, rest) := splitUserInfo cs
  if (user.isSome ∧ rest = []) then .error (.host .empty)
  let (host, port) := splitPort false rest
  let host ← readHost scheme host
  let userInfo := user.bind userInfoText
  if (host = [] ∧ (userInfo.isSome ∨ port.getD [] ≠ [])) then .error (.host .empty)
  match port with
  | none => return ⟨userInfo, host, none⟩
  | some [] => return ⟨userInfo, host, none⟩
  | some digits =>
    let n ← readPort 0 digits
    return ⟨userInfo, host, if specialPort? scheme = some n then none else some n⟩

/-- Whether a path segment is a dot, written out or encoded. -/
def isDot (segment : List Char) : Bool :=
  [".", "%2e"].contains (String.ofList (lowerAscii segment))

def isDoubleDot (segment : List Char) : Bool :=
  ["..", ".%2e", "%2e.", "%2e%2e"].contains (String.ofList (lowerAscii segment))

/-- Resolves dot segments; `done` holds the segments so far, last first. -/
def resolveDots (done : List (List Char)) : List (List Char) → List (List Char)
  | [] => done.reverse
  | segment :: more =>
    if isDoubleDot segment then resolveDots (if more = [] then [] :: done.tail else done.tail) more
    else if isDot segment then resolveDots (if more = [] then [] :: done else done) more
    else resolveDots (percentEncode inPath segment :: done) more

/-- The written form of a hierarchical path. -/
def pathText (special : Bool) (cs : List Char) : List Char :=
  let cs := if special then cs.map fun c => if c = '\\' then '/' else c else cs
  match cs with
  | [] => if special then ['/'] else []
  | '/' :: rest => '/' :: joinWith '/' (resolveDots [] (splitAt '/' rest))
  | rest => '/' :: joinWith '/' (resolveDots [] (splitAt '/' rest))

/-- The text without blanks around it and without line ends and tabs anywhere. -/
def cleaned (cs : List Char) : List Char :=
  let isEdge (c : Char) : Bool := c.toNat ≤ 32
  (dropEndWhile isEdge (cs.dropWhile isEdge)).filter fun c => c != '\t' && c != '\n' && c != '\r'

/-- Reads an absolute URL. -/
def parse (text : String) : Except Fault Url := do
  let cs := cleaned text.toList
  match readScheme cs with
  | none => .error .relative
  | some (scheme, rest) =>
    let special := isSpecial scheme
    let fragment := (splitOnce '#' rest).map Prod.snd
    let rest := rest.takeWhile (· ≠ '#')
    let query := (splitOnce '?' rest).map Prod.snd
    let rest := rest.takeWhile (· ≠ '?')
    let query := query.map (percentEncode (inQuery special))
    let fragment := fragment.map (percentEncode inFragment)
    let isSlash (c : Char) : Bool := c == '/' || (special && c == '\\')
    let slashes := (rest.takeWhile isSlash).length
    if (specialPort? scheme).isSome ∨ (2 ≤ slashes) then
      let rest := if (specialPort? scheme).isSome then rest.dropWhile isSlash else rest.drop 2
      let before := rest.takeWhile fun c => !endsAuthority special c
      let after := rest.dropWhile fun c => !endsAuthority special c
      let authority ← readAuthority scheme before
      return ⟨scheme, some authority, pathText special after, query, fragment⟩
    else if special then
      return ⟨scheme, some ⟨none, [], none⟩, pathText true rest, query, fragment⟩
    else if slashes = 1 then return ⟨scheme, none, pathText false rest, query, fragment⟩
    else return ⟨scheme, none, percentEncode inOpaque rest, query, fragment⟩

def hasHost (u : Url) : Bool :=
  match u.authority with
  | some a => a.host ≠ []
  | none => false

/-- Whether a URL can be asked for over HTTP. -/
def isHttp (u : Url) : Bool :=
  u.scheme == ['h', 't', 't', 'p'] || u.scheme == ['h', 't', 't', 'p', 's']

def Authority.text (a : Authority) : List Char :=
  (match a.userInfo with
    | some user => user ++ ['@']
    | none => [])
  ++ a.host
  ++ match a.port with
    | some n => ':' :: decimalText n
    | none => []

def text (u : Url) : String :=
  .ofList <| u.scheme ++ [':']
    ++ (match u.authority with
      | some a => '/' :: '/' :: Authority.text a
      | none => [])
    ++ u.path
    ++ (match u.query with
      | some q => '?' :: q
      | none => [])
    ++ match u.fragment with
      | some f => '#' :: f
      | none => []

/-- A URL without user name and password, which are sent apart from it. -/
def withoutUserInfo (u : Url) : Url :=
  { u with authority := u.authority.map fun a => { a with userInfo := none } }

end Url

end HstsPreload.Web
