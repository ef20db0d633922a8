import HstsPreload.Json.Record

/-!
Findings about a domain: errors stand in the way of what was asked, warnings inform.
-/

namespace HstsPreload

open HstsPreload.Json

/-- One finding. -/
structure Issue where
  code : String
  summary : String
  message : String
  deriving Repr, DecidableEq, Inhabited

namespace Issue

def toJson (i : Issue) : Value :=
  .object [("code", .string i.code), ("summary", .string i.summary), ("message", .string i.message)]

/-- The members of a finding that have been read. -/
structure Draft where
  code : Option String := none
  summary : Option String := none
  message : Option String := none

/-- How findings are read: every member is required. -/
def kind : RecordKind Draft where
  label := "struct Issue"
  empty := {}
  members := [
    .field "code" true Draft.code (fun d a => { d with code := some a }) readString,
    .field "summary" true Draft.summary (fun d a => { d with summary := some a }) readString,
    .field "message" true Draft.message (fun d a => { d with message := some a }) readString]

def read : Reader Issue := fun cs => do
  let (d, rest) ← kind.read cs
  return (⟨d.code.getD "", d.summary.getD "", d.message.getD ""⟩, rest)

end Issue

/-- What there is to say about a domain. -/
structure Issues where
  errors : List Issue := []
  warnings : List Issue := []
  deriving Repr, DecidableEq, Inhabited

namespace Issues

/-- Whether something stands in the way. -/
def hasErrors (i : Issues) : Bool :=
  !i.errors.isEmpty

def isEmpty (i : Issues) : Bool :=
  i.errors.isEmpty && i.warnings.isEmpty

def ofError (i : Issue) : Issues := ⟨[i], []⟩

def ofWarning (i : Issue) : Issues := ⟨[], [i]⟩

def pushError (is : Issues) (i : Issue) : Issues :=
  { is with errors := is.errors ++ [i] }

def pushWarning (is : Issues) (i : Issue) : Issues :=
  { is with warnings := is.warnings ++ [i] }

/-- All findings of both, those of the first before those of the second. -/
def append (a b : Issues) : Issues :=
  ⟨a.errors ++ b.errors, a.warnings ++ b.warnings⟩

instance : Append Issues := ⟨append⟩

def errorCodes (i : Issues) : List String :=
  i.errors.map Issue.code

def warningCodes (i : Issues) : List String :=
  i.warnings.map Issue.code

def toJson (i : Issues) : Value :=
  .object [("errors", .list (i.errors.map Issue.toJson)),
    ("warnings", .list (i.warnings.map Issue.toJson))]

/-- The lists of findings that have been read. -/
structure Draft where
  errors : Option (List Issue) := none
  warnings : Option (List Issue) := none

/-- How findings are read: either list may be missing. -/
def kind : RecordKind Draft where
  label := "struct Issues"
  empty := {}
  members := [
    .field "errors" false Draft.errors (fun d a => { d with errors := some a })
      (readList Issue.read),
    .field "warnings" false Draft.warnings (fun d a => { d with warnings := some a })
      (readList Issue.read)]

def read : Reader Issues := fun cs => do
  let (d, rest) ← kind.read cs
  return (⟨d.errors.getD [], d.warnings.getD []⟩, rest)

def parse (text : String) : Except Json.Error Issues :=
  readAll read text

end Issues

end HstsPreload
