import HstsPreload.Entry
import HstsPreload.Status
import HstsPreload.Time.Instant

/-!
Records: what the registry keeps about one domain.
-/

namespace HstsPreload

open HstsPreload.Json

/-- The record of a domain. The submission date is kept but never shown in JSON. -/
structure Record where
  name : String
  status : Status := .unknown
  message : String := ""
  submissionDate : Option Instant := none
  includeSubDomains : Bool := false
  policy : Policy := .unspecified
  deriving Repr, DecidableEq, Inhabited

namespace Record

/-- The record of a domain of which nothing is kept. -/
def unseen (name : String) : Record :=
  { name }

def isBulk (r : Record) : Bool :=
  r.policy.isBulk

def isProtected (r : Record) : Bool :=
  r.policy.isProtected

def toEntry (r : Record) : Entry :=
  ⟨r.name, r.policy, .forceHttps, r.includeSubDomains⟩

/-- The member that holds a message, left out when it is empty. -/
def messageMember (message : String) : List (String × Value) :=
  if message = "" then [] else [("message", .string message)]

def jsonMembers (r : Record) : List (String × Value) :=
  [("name", .string r.name), ("status", r.status.toJson)] ++ messageMember r.message
    ++ [("includeSubDomains", .bool r.includeSubDomains)] ++ r.policy.member

def toJson (r : Record) : Value :=
  .object r.jsonMembers

/-- The members of a record that have been read. -/
structure Draft where
  name : Option String := none
  status : Option Status := none
  message : Option String := none
  includeSubDomains : Option Bool := none
  policy : Option Policy := none

/-- How records are read: the name and the status are required. -/
def kind : RecordKind Draft where
  label := "struct DomainState"
  empty := {}
  members := [
    .field "name" true Draft.name (fun d a => { d with name := some a }) readString,
    .field "status" true Draft.status (fun d a => { d with status := some a }) Status.read,
    .field "message" false Draft.message (fun d a => { d with message := some a }) readString,
    .field "includeSubDomains" false Draft.includeSubDomains
      (fun d a => { d with includeSubDomains := some a }) readBool,
    .field "policy" false Draft.policy (fun d a => { d with policy := some a }) Policy.read]

/-- The record that a draft amounts to; it has no submission date. -/
def ofDraft (d : Draft) : Record where
  name := d.name.getD ""
  status := d.status.getD .unknown
  message := d.message.getD ""
  includeSubDomains := d.includeSubDomains.getD false
  policy := d.policy.getD .unspecified

def read : Reader Record := fun cs => do
  let (d, rest) ← kind.read cs
  return (ofDraft d, rest)

def parse (text : String) : Except Json.Error Record :=
  readAll read text

end Record

end HstsPreload
