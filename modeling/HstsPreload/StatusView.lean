import HstsPreload.Record

/-!
What the registry tells about a domain: its record, whether it joined in bulk, and the domain whose
entry covers it.
-/

namespace HstsPreload

open HstsPreload.Json

/-- A record as it is told. -/
structure StatusView where
  record : Record
  bulk : Bool
  preloadedDomain : Option String
  deriving Repr, DecidableEq, Inhabited

namespace StatusView

/-- A view as JSON: the members of the record come first. -/
def toJson (v : StatusView) : Value :=
  .object (v.record.jsonMembers ++ [("bulk", .bool v.bulk)]
    ++ match v.preloadedDomain with
      | none => []
      | some d => [("preloadedDomain", .string d)])

/-- The members of a view that have been read; those of the record are kept for later, last first. -/
structure Draft where
  bulk : Option Bool := none
  preloadedDomain : Option (Option String) := none
  others : List (String × Value) := []

def label : String := "struct DomainStatusView"

/-- Puts a member of the record into its draft; other members say nothing. -/
def recordMember (d : Record.Draft) (key : String) (v : Value) : Except Cause Record.Draft :=
  if key = "name" then do
    if d.name.isSome then .error (.duplicateField key)
    return { d with name := some (← v.asString) }
  else if key = "status" then do
    if d.status.isSome then .error (.duplicateField key)
    return { d with status := some (← v.asWord Status.words) }
  else if key = "message" then do
    if d.message.isSome then .error (.duplicateField key)
    return { d with message := some (← v.asString) }
  else if key = "includeSubDomains" then do
    if d.includeSubDomains.isSome then .error (.duplicateField key)
    return { d with includeSubDomains := some (← v.asBool) }
  else if key = "policy" then do
    if d.policy.isSome then .error (.duplicateField key)
    return { d with policy := some (.ofText (← v.asString)) }
  else .ok d

/-- The record among the members that were kept. -/
def recordOf (members : List (String × Value)) : Except Cause Record := do
  let d ← members.foldlM (fun d (key, v) => recordMember d key v) ({} : Record.Draft)
  if d.name.isNone then .error (.missingField "name")
  if d.status.isNone then .error (.missingField "status")
  return Record.ofDraft d

def ofDraft (d : Draft) : Except Cause StatusView :=
  match d.bulk with
  | none => .error (.missingField "bulk")
  | some bulk => do
    return ⟨← recordOf d.others.reverse, bulk, d.preloadedDomain.getD none⟩

/-- Reads members until the object ends, with fuel for them. -/
def readMembers : Nat → Bool → Draft → List Char → Except Fault (StatusView × List Char)
  | 0, _, _, cs => .error (faultNext .expectedValue cs)
  | fuel + 1, first, d, cs => do
    match ← nextKey first cs with
    | (none, rest) =>
      let rest := pastObjectEnd rest
      match ofDraft d with
      | .ok view => return (view, rest)
      | .error cause => .error (faultAt cause rest)
    | (some key, _) =>
      let (name, rest) ← readStringTail key
      if name = "bulk" then
        if d.bulk.isSome then .error (faultAt (.duplicateField name) (pastObjectEnd rest))
        let (b, rest) ← readBool (← readColon rest)
        readMembers fuel false { d with bulk := some b } rest
      else if name = "preloadedDomain" then
        if d.preloadedDomain.isSome then
          .error (faultAt (.duplicateField name) (pastObjectEnd rest))
        let (s, rest) ← readOptionalString (← readColon rest)
        readMembers fuel false { d with preloadedDomain := some s } rest
      else
        let (v, rest) ← readAny (depthLimit - 1) (← readColon rest)
        readMembers fuel false { d with others := (name, v) :: d.others } rest

/-- Reads a view. The members of the record may stand anywhere among the others. -/
def read : Reader StatusView := fun cs =>
  match skipSpace cs with
  | '\x7b' :: rest => readMembers (rest.length + 1) true {} rest
  | other => refuseType label other

def parse (text : String) : Except Json.Error StatusView :=
  readAll read text

end StatusView

end HstsPreload
