import HstsPreload.Json.Value
import HstsPreload.Text.Quoted
import HstsPreload.Text.Utf8

/-!
Why a JSON text is refused, and where. Reading stops with part of the text unread; the place that is
reported is the byte at which that part starts, or one a few bytes further on.
-/

namespace HstsPreload.Json

open HstsPreload.Text

/-- What was found where something else was expected. -/
inductive Found where
  | null
  | bool (b : Bool)
  | number (n : Number)
  | string (s : String)
  | list
  | object
  deriving Repr, DecidableEq

def Found.message : Found → String
  | .null => "null"
  | .bool b => s!"boolean `{b}`"
  | .number (.real minus x) => s!"floating point `{String.ofList (Number.real minus x).text}`"
  | .number n => s!"integer `{String.ofList n.text}`"
  | .string s => s!"string {Quoted.quote s}"
  | .list => "sequence"
  | .object => "map"

/-- What a value shows itself as. -/
def Found.ofValue : Value → Found
  | .null => .null
  | .bool b => .bool b
  | .number n => .number n
  | .string s => .string s
  | .list _ => .list
  | .object _ => .object

/-- Why a text is refused. -/
inductive Cause where
  | eofInList
  | eofInObject
  | eofInString
  | eofInValue
  | expectedColon
  | expectedListEnd
  | expectedObjectEnd
  | expectedWord
  | expectedValue
  | invalidEscape
  | invalidNumber
  | numberOutOfRange
  | controlCharacter
  | keyNotString
  | loneSurrogate
  | trailingComma
  | trailingCharacters
  | endOfHexEscape
  | tooDeep
  | invalidType (found : Found) (expected : String)
  | invalidValue (found : Found) (expected : String)
  | invalidLength (length : Nat) (expected : String)
  | unknownVariant (found : String) (known : List String)
  | missingField (name : String)
  | duplicateField (name : String)
  deriving Repr, DecidableEq

/-- Alternatives, each between backticks. -/
def alternatives : List String → String
  | [a] => s!"`{a}`"
  | [a, b] => s!"`{a}` or `{b}`"
  | names => "one of " ++ ", ".intercalate (names.map fun a => s!"`{a}`")

def Cause.message : Cause → String
  | .eofInList => "EOF while parsing a list"
  | .eofInObject => "EOF while parsing an object"
  | .eofInString => "EOF while parsing a string"
  | .eofInValue => "EOF while parsing a value"
  | .expectedColon => "expected `:`"
  | .expectedListEnd => "expected `,` or `]`"
  | .expectedObjectEnd => "expected `,` or `\x7d`"
  | .expectedWord => "expected ident"
  | .expectedValue => "expected value"
  | .invalidEscape => "invalid escape"
  | .invalidNumber => "invalid number"
  | .numberOutOfRange => "number out of range"
  | .controlCharacter => "control character (\\u0000-\\u001F) found while parsing a string"
  | .keyNotString => "key must be a string"
  | .loneSurrogate => "lone leading surrogate in hex escape"
  | .trailingComma => "trailing comma"
  | .trailingCharacters => "trailing characters"
  | .endOfHexEscape => "unexpected end of hex escape"
  | .tooDeep => "recursion limit exceeded"
  | .invalidType found expected => s!"invalid type: {found.message}, expected {expected}"
  | .invalidValue found expected => s!"invalid value: {found.message}, expected {expected}"
  | .invalidLength length expected => s!"invalid length {length}, expected {expected}"
  | .unknownVariant found known => s!"unknown variant `{found}`, expected {alternatives known}"
  | .missingField name => s!"missing field `{name}`"
  | .duplicateField name => s!"duplicate field `{name}`"

/-- A refusal: what is unread, and how many bytes of it the place reported lies ahead. -/
structure Fault where
  cause : Cause
  rest : List Char
  ahead : Nat
  deriving Repr, DecidableEq

/-- A refusal at the start of what is unread. -/
def faultAt (cause : Cause) (rest : List Char) : Fault :=
  ⟨cause, rest, 0⟩

/-- A refusal of the byte that comes next, if there is one. -/
def faultNext (cause : Cause) (rest : List Char) : Fault :=
  ⟨cause, rest, if rest = [] then 0 else 1⟩

/-- A line, counted from one, and how many bytes of it come before and at the place. -/
structure Position where
  line : Nat
  column : Nat
  deriving Repr, DecidableEq

/-- The position after some bytes. -/
def Position.after (bytes : List UInt8) : Position :=
  bytes.foldl (fun p b => if b = 10 then ⟨p.line + 1, 0⟩ else ⟨p.line, p.column + 1⟩) ⟨1, 0⟩

/-- A refusal with its place in the text. -/
structure Error where
  cause : Cause
  position : Position
  deriving Repr, DecidableEq

/-- Finds the place of a refusal in the text it is about. -/
def Fault.locate (text : List Char) (f : Fault) : Error :=
  let bytes := Utf8.encode text
  ⟨f.cause, .after (bytes.take (bytes.length - (Utf8.encode f.rest).length + f.ahead))⟩

def Error.message (e : Error) : String :=
  s!"{e.cause.message} at line {e.position.line} column {e.position.column}"

end HstsPreload.Json
