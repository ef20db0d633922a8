import HstsPreload.Issue
import HstsPreload.Policy
import HstsPreload.Text.Blank
import HstsPreload.Text.Digits
import HstsPreload.Text.Lines

/-!
The `Strict-Transport-Security` header, and what it must say for a site to join or leave the list.
Only the first occurrence of a directive counts.
-/

namespace HstsPreload

open HstsPreload.Text

/-- What a header says. -/
structure Header where
  maxAge : Option Nat := none
  includeSubDomains : Bool := false
  preload : Bool := false
  deriving Repr, DecidableEq, Inhabited

namespace Header

/-- A directive: its name in lower case, and what follows its first equals sign. -/
structure Directive where
  name : String
  value : Option String
  deriving Repr, DecidableEq

def Directive.ofText (cs : List Char) : Directive :=
  match splitOnce '=' cs with
  | some (name, value) => ⟨.ofList (lowerAscii (trim name)), some (.ofList (trim value))⟩
  | none => ⟨.ofList (lowerAscii cs), none⟩

/-- The directives of a header, without blank ones. -/
def directives (raw : String) : List Directive :=
  (((splitAt ';' raw.toList).map trim).filter (· ≠ [])).map .ofText

/-- The largest age that is read. -/
def largestAge : Nat := UInt64.size - 1

/-- A value without the quotation marks around it. -/
def unquoted (value : String) : String :=
  .ofList (dropEndWhile (· = '"') (value.toList.dropWhile (· = '"')))

/-- Warns of a directive that came before. -/
def repeatedDirective (name : String) : Issue :=
  ⟨"header.parse.repeated_directive", "Repeated directive",
    s!"The header contains the `{name}` directive more than once."⟩

/-- Warns of a directive that means nothing. -/
def unknownDirective (name : String) : Issue :=
  ⟨"header.parse.unknown_directive", "Unknown directive",
    s!"The header contains an unknown directive: `{name}`."⟩

/-- Refuses an age that is no number. -/
def invalidMaxAge (digits : String) : Issue :=
  ⟨"header.parse.max_age.parse_int_error", "Invalid max-age",
    s!"The max-age value `{digits}` is not a whole number of seconds."⟩

/-- Takes in the first directive of its name. -/
def takeDirective (h : Header) (issues : Issues) (d : Directive) : Header × Issues :=
  if d.name = "max-age" then
    let digits := unquoted (d.value.getD "")
    match readNat largestAge digits.toList with
    | .ok seconds => ({ h with maxAge := some seconds }, issues)
    | .error _ => (h, issues.pushError (invalidMaxAge digits))
  else if d.name = "includesubdomains" then ({ h with includeSubDomains := true }, issues)
  else if d.name = "preload" then ({ h with preload := true }, issues)
  else (h, issues.pushWarning (unknownDirective d.name))

/-- Takes in directives, given the names already seen. -/
def takeDirectives (seen : List String) (h : Header) (issues : Issues) :
    List Directive → Header × Issues
  | [] => (h, issues)
  | d :: rest =>
    if seen.contains d.name then
      takeDirectives seen h (issues.pushWarning (repeatedDirective d.name)) rest
    else
      let (h, issues) := takeDirective h issues d
      takeDirectives (d.name :: seen) h issues rest

/-- Reads a header: an age that is no number is an error, a repeated or unknown directive a
warning. -/
def parse (raw : String) : Header × Issues :=
  takeDirectives [] {} {} (directives raw)

/-- The age that a policy asks for: 18 weeks or a year, in seconds. -/
def requiredMaxAge : Policy → Nat
  | .bulk18Weeks => 10886400
  | _ => 31536000

def missingHeader : Issue :=
  ⟨"response.no_header", "No HSTS header",
    "Response error: No HSTS header is present on the response."⟩

def maxAgeIssues (h : Header) (policy : Policy) : List Issue :=
  let required := requiredMaxAge policy
  match h.maxAge with
  | none =>
    [⟨"header.preloadable.max_age.missing", "No max-age directive",
      "Header requirement error: Header must contain a valid `max-age` directive."⟩]
  | some age =>
    if age < required then
      [⟨"header.preloadable.max_age.too_low", "Max-age too low",
        s!"Header requirement error: The max-age must be at least {required} seconds, "
          ++ s!"but the header currently only has max-age={age}."⟩]
    else []

/-- What is missing besides the age. -/
def directiveIssues (h : Header) : List Issue :=
  (if h.includeSubDomains then []
    else [⟨"header.preloadable.include_sub_domains.missing", "No includeSubDomains directive",
      "Header requirement error: Header must contain the `includeSubDomains` directive."⟩])
  ++ if h.preload then []
    else [⟨"header.preloadable.preload.missing", "No preload directive",
      "Header requirement error: Header must contain the `preload` directive."⟩]

/-- What stands in the way of joining the list under a policy, given the header if there is one. -/
def preloadable (raw : Option String) (policy : Policy) : Issues :=
  match raw with
  | none => .ofError missingHeader
  | some raw =>
    let (h, issues) := parse raw
    { issues with errors := issues.errors ++ h.maxAgeIssues policy ++ h.directiveIssues }

/-- A header that still asks for the list. -/
def stillPreloading : Issue :=
  ⟨"header.removable.contains.preload", "Contains preload directive",
    "Header requirement error: For preload list removal, the header must not contain the "
      ++ "`preload` directive."⟩

/-- What stands in the way of leaving the list; a site without a header may leave. -/
def removable (raw : Option String) : Issues :=
  match raw with
  | none => {}
  | some raw =>
    let (h, issues) := parse raw
    if h.preload then issues.pushError stillPreloading else issues

end Header

end HstsPreload
