import HstsPreload.Entry
import HstsPreload.Text.Blank
import HstsPreload.Text.Lines
import Std.Data.ExtTreeMap
import Std.Data.ExtTreeSet

/-!
The preload list: its entries in order, those of them that count as preloaded, and its text, which is
JSON with whole lines of comment.
-/

namespace HstsPreload

open HstsPreload.Json HstsPreload.Text

/-- A snapshot of the list. -/
structure PreloadList where
  entries : List Entry := []
  deriving Repr, DecidableEq, Inhabited

namespace PreloadList

/-- Keeps the first entry of each name, given the names already seen. -/
def firstOfEach (seen : Std.ExtTreeSet String) : List Entry → List Entry
  | [] => []
  | e :: rest =>
    if e.name ∈ seen then firstOfEach seen rest
    else e :: firstOfEach (seen.insert e.name) rest

/-- The preloaded entries in list order, the first of each name. -/
def hstsEntries (l : PreloadList) : List Entry :=
  firstOfEach ∅ (l.entries.filter Entry.isHsts)

/-- The first preloaded entry of each name, by name. -/
def hstsIndex (l : PreloadList) : Std.ExtTreeMap String Entry :=
  (l.entries.filter Entry.isHsts).foldl (fun index e => index.insertIfNew e.name e) ∅

def toJson (l : PreloadList) : Value :=
  .object [("entries", .list (l.entries.map Entry.toJson))]

/-- How lists are read; a list without entries is empty. -/
def kind : RecordKind (Option (List Entry)) where
  label := "struct PreloadList"
  empty := none
  members := [.field "entries" false id (fun _ a => some a) (readList Entry.read)]

def read : Reader PreloadList := fun cs => do
  let (entries, rest) ← kind.read cs
  return (⟨entries.getD []⟩, rest)

/-- Whether a line is a comment: two slashes after any blanks. -/
def isComment (line : List Char) : Bool :=
  (trimStart line).take 2 == ['/', '/']

/-- A text without its lines of comment. -/
def withoutComments (text : String) : String :=
  .ofList (joinWith '\n' ((lines text.toList).filter fun line => !isComment line))

def parse (text : String) : Except Json.Error PreloadList :=
  readAll read (withoutComments text)

end PreloadList

end HstsPreload
