import HstsPreload.Json.Typed

/-!
Readers of records: objects with known members, or lists of their values in order. Members that are
not known are passed over, none may come twice, and those that are required must be there.
-/

namespace HstsPreload.Json

/-- A member of a record, whose values are gathered in a draft of type `σ`. -/
structure Member (σ : Type) where
  key : String
  required : Bool
  present : σ → Bool
  read : σ → Reader σ

structure RecordKind (σ : Type) where
  /-- How a refusal names it. -/
  label : String
  members : List (Member σ)
  empty : σ

namespace RecordKind

variable {σ : Type}

def find? (kind : RecordKind σ) (key : String) : Option (Member σ) :=
  kind.members.find? fun m => m.key == key

/-- The first member that is required and missing. -/
def missing? (kind : RecordKind σ) (draft : σ) : Option (Member σ) :=
  kind.members.find? fun m => m.required && !m.present draft

/-- Reads members until the object ends, with fuel for them. -/
def readMembers (kind : RecordKind σ) : Nat → Bool → σ → List Char → Except Fault (σ × List Char)
  | 0, _, draft, cs => .ok (draft, cs)
  | fuel + 1, first, draft, cs => do
    match ← nextKey first cs with
    | (none, rest) =>
      match kind.missing? draft with
      | some m => .error (faultAt (.missingField m.key) (pastObjectEnd rest))
      | none => .ok (draft, pastObjectEnd rest)
    | (some key, _) =>
      let (name, rest) ← readStringTail key
      match kind.find? name with
      | none =>
        let rest ← skipValue (← readColon rest)
        readMembers kind fuel false draft rest
      | some m =>
        if m.present draft then
          .error (faultAt (.duplicateField m.key) (pastObjectEnd rest))
        else
          let (draft, rest) ← m.read draft (← readColon rest)
          readMembers kind fuel false draft rest

/-- How a refusal names the list form. -/
def listLabel (kind : RecordKind σ) : String :=
  let count := kind.members.length
  let noun := if count = 1 then "element" else "elements"
  s!"{kind.label} with {count} {noun}"

/-- Reads the values of the members from `index` on, in order; members that are not required may be
missing at the end. -/
def readElements (kind : RecordKind σ) (draft : σ) :
    Nat → List (Member σ) → List Char → Except Fault (σ × List Char)
  | _, [], cs => .ok (draft, cs)
  | index, m :: more, cs => do
    match ← nextItem (index == 0) cs with
    | (some item, _) =>
      let (draft, rest) ← m.read draft item
      readElements kind draft (index + 1) more rest
    | (none, rest) =>
      if m.required then
        .error (faultAt (.invalidLength index kind.listLabel) (pastListEnd rest))
      else readElements kind draft (index + 1) more rest

/-- Reads a record in either form. -/
def read (kind : RecordKind σ) : Reader σ := fun cs =>
  match Json.skipSpace cs with
  | '\x7b' :: rest => kind.readMembers (rest.length + 1) true kind.empty rest
  | '[' :: rest => do
    let (draft, rest) ← kind.readElements kind.empty 0 kind.members rest
    return (draft, ← endList rest)
  | other => refuseType kind.label other

end RecordKind

/-- A member whose value is a field of the draft that is empty until it is read. -/
def Member.field {σ α : Type} (key : String) (required : Bool) (get : σ → Option α)
    (set : σ → α → σ) (read : Reader α) : Member σ :=
  { key, required, present := fun draft => (get draft).isSome,
    read := fun draft cs => do
      let (a, rest) ← read cs
      return (set draft a, rest) }

end HstsPreload.Json
