import HstsPreload.Entry
import HstsPreload.Pending.Changes
import HstsPreload.Text.Lines
import HstsPreload.Text.Quoted
import Std.Data.ExtTreeMap

/-!
Making pending changes in the text of the list. Only lines that hold one entry are dropped, new entries
are put above the line that closes the bulk section, and every other line is kept as it is.
-/

namespace HstsPreload.ListText

open HstsPreload.Text

/-- The line that closes the section of entries added for a year. -/
def sentinel : List Char :=
  "    // END OF 1-YEAR BULK HSTS ENTRIES".toList

/-- Whether a line is a comment: two slashes after any spaces. -/
def isComment (line : List Char) : Bool :=
  (line.dropWhile (· = ' ')).take 2 == ['/', '/']

/-- Whether a closing brace with a comma behind it occurs. -/
def closesEntry : List Char → Bool
  | [] => false
  | c :: rest => (c = '\x7d' && rest.head? = some ',') || closesEntry rest

/-- Whether a line holds one entry: an opening brace after four spaces, and later a closing brace with
a comma. -/
def isEntry (line : List Char) : Bool :=
  line.take 5 == [' ', ' ', ' ', ' ', '\x7b'] && closesEntry (line.drop 5)

/-- What a line is. -/
inductive Kind where
  | sentinel
  | entry
  /-- A comment or anything else that is kept as it is. -/
  | other
  deriving Repr, DecidableEq

def kind (line : List Char) : Kind :=
  if isComment line then if line = sentinel then .sentinel else .other
  else if isEntry line then .entry
  else .other

/-- The line that adds a name for a year. -/
def additionLine (name : String) : List Char :=
  ("    \x7b \"name\": \"" ++ name
    ++ "\", \"policy\": \"bulk-1-year\", \"mode\": \"force-https\", \"include_subdomains\": true \x7d,").toList

/-- A line of an entry that cannot be read. -/
structure EntryFault where
  line : String
  error : Json.Error
  deriving Repr, DecidableEq

def EntryFault.message (f : EntryFault) : String :=
  s!"could not parse list entry {Quoted.quote f.line}: {f.error.message}"

def entryOf (line : List Char) : Except EntryFault Entry :=
  (Entry.parse (.ofList (stripEnd ',' line))).mapError fun error => ⟨.ofList line, error⟩

/-- Lines of the new text, and the names of the entries among them. -/
structure Written where
  lines : List (List Char) := []
  names : List String := []
  deriving Repr, DecidableEq, Inhabited

/-- What becomes of one line. -/
def editLine (changes : PendingChanges) (line : List Char) : Except EntryFault Written :=
  match kind line with
  | .sentinel => .ok ⟨changes.additions.map additionLine ++ [line], changes.additions⟩
  | .entry => do
    let entry ← entryOf line
    return if changes.removes entry.name then {} else ⟨[line], [entry.name]⟩
  | .other => .ok ⟨[line], []⟩

/-- How often each name occurs. -/
def tally (names : List String) : Std.ExtTreeMap String Nat :=
  names.foldl (fun counts name => counts.alter name fun n => some (n.getD 0 + 1)) ∅

/-- The names that occur more than once, in order. -/
def repeated (names : List String) : List String :=
  ((tally names).toList.filter (1 < ·.2)).map Prod.fst

/-- The new text of the list, and the names that occur in it more than once. -/
structure Updated where
  contents : String
  duplicates : List String
  deriving Repr, DecidableEq, Inhabited

/-- The lines of a text; a line feed at its end begins no further line. -/
def linesOf (contents : String) : List (List Char) :=
  splitAt '\n' (stripEnd '\n' contents.toList)

/-- A text of lines. -/
def ofLines (lines : List (List Char)) : String :=
  .ofList (lines.flatMap (· ++ ['\n']))

/-- Makes changes in the text of the list, unless one of the entries cannot be read. -/
def update (contents : String) (changes : PendingChanges) : Except EntryFault Updated := do
  let written ← (linesOf contents).mapM (editLine changes)
  return ⟨ofLines (written.flatMap Written.lines), repeated (written.flatMap Written.names)⟩

end HstsPreload.ListText
