import HstsPreload.Host.Basic
import HstsPreload.Text.Blank

/-!
Domain names as the registry uses them: the form under which a host is kept, and the chain of names
that a domain lies under.
-/

namespace HstsPreload.DomainName

open HstsPreload.Text

/-- Why a text is no domain name. -/
inductive Fault where
  | empty
  | invalid (value : String) (cause : Host.Fault)
  deriving Repr, DecidableEq

def Fault.message : Fault → String
  | .empty => "domain name is empty"
  | .invalid value cause => s!"'{value}' is not a valid domain name: {cause.message}"

/-- The form under which a host is kept: its one written form, with blanks around it and full stops
after it dropped from the text first. -/
def normalize (raw : String) : Except Fault String :=
  let trimmed := dropEndWhile (· = '.') (trim raw.toList)
  if trimmed = [] then .error .empty
  else
    match Host.parse trimmed with
    | .ok host => .ok (.ofList (lowerAscii host.text))
    | .error cause => .error (.invalid raw cause)

/-- What follows the first full stop, unless that is nothing. -/
def parentChars (cs : List Char) : Option (List Char) :=
  match splitOnce '.' cs with
  | some (_, []) => none
  | some (_, parent) => some parent
  | none => none

/-- The name without its first label, if any label is left. -/
def parent? (domain : String) : Option String :=
  (parentChars domain.toList).map .ofList

/-- The names that a domain lies under, nearest first: what follows each full stop but a last one. -/
def ancestorChars : List Char → List (List Char)
  | [] => []
  | c :: rest =>
    if c = '.' then if rest = [] then [] else rest :: ancestorChars rest else ancestorChars rest

def ancestors (domain : String) : List String :=
  (ancestorChars domain.toList).map .ofList

end HstsPreload.DomainName
