import HstsPreload.Json.Record
import HstsPreload.Policy

/-!
Entries of the preload list, and how they are written there.
-/

namespace HstsPreload

open HstsPreload.Json

/-- What browsers enforce for an entry. -/
inductive Mode where
  | unspecified
  | forceHttps
  deriving Repr, DecidableEq, Inhabited

namespace Mode

def text : Mode → String
  | .unspecified => ""
  | .forceHttps => "force-https"

def words : Words Mode := ⟨[.unspecified, .forceHttps], text⟩

/-- The member that holds a mode, left out when there is none. -/
def member (m : Mode) : List (String × Value) :=
  if m = .unspecified then [] else [("mode", .string m.text)]

end Mode

structure Entry where
  name : String
  policy : Policy := .unspecified
  mode : Mode := .unspecified
  includeSubdomains : Bool := false
  deriving Repr, DecidableEq, Inhabited

namespace Entry

/-- Whether browsers reach the domain over HTTPS only; other entries do not count as preloaded. -/
def isHsts (e : Entry) : Bool :=
  e.mode == .forceHttps

/-- The entry as JSON; what is unspecified is left out. -/
def toJson (e : Entry) : Value :=
  .object ([("name", .string e.name)] ++ e.policy.member ++ e.mode.member
    ++ [("include_subdomains", .bool e.includeSubdomains)])

/-- The members of an entry that have been read. -/
structure Draft where
  name : Option String := none
  policy : Option Policy := none
  mode : Option Mode := none
  includeSubdomains : Option Bool := none

/-- How entries are read: the name is required. -/
def kind : RecordKind Draft where
  label := "struct PreloadEntry"
  empty := {}
  members := [
    .field "name" true Draft.name (fun d a => { d with name := some a }) readString,
    .field "policy" false Draft.policy (fun d a => { d with policy := some a }) Policy.read,
    .field "mode" false Draft.mode (fun d a => { d with mode := some a }) Mode.words.read,
    .field "include_subdomains" false Draft.includeSubdomains
      (fun d a => { d with includeSubdomains := some a }) readBool]

def ofDraft (d : Draft) : Entry where
  name := d.name.getD ""
  policy := d.policy.getD .unspecified
  mode := d.mode.getD .unspecified
  includeSubdomains := d.includeSubdomains.getD false

def read : Reader Entry := fun cs => do
  let (d, rest) ← kind.read cs
  return (ofDraft d, rest)

def parse (text : String) : Except Json.Error Entry :=
  readAll read text

end Entry

end HstsPreload
