import HstsPreload.Store.Basic
import HstsPreload.Store.Column
import HstsPreload.Time.Rfc3339
import Std.Data.ExtTreeMap

/-!
A store in a table with one row for each name. Rows are checked when they are read: one with a column
of another type, or whose status or date means nothing, is an error and never passed over.
-/

namespace HstsPreload

open HstsPreload.Column

/-- A row without its name, as the columns hold it. -/
structure Row where
  status : TextCell
  message : TextCell
  submissionDate : Option TextCell
  includeSubDomains : Cell
  policy : TextCell
  deriving Repr, DecidableEq

namespace Row

def ofRecord (r : Record) : Row where
  status := r.status.text
  message := r.message
  submissionDate := r.submissionDate.map (.text ∘ Rfc3339.write)
  includeSubDomains := .integer (if r.includeSubDomains then 1 else 0)
  policy := r.policy.text

/-- The fault of a column that holds another type. -/
def wrongType (type : String) (index : Nat) (column : String) : StoreFault :=
  .backend s!"Invalid column type {type} at index: {index}, name: {column}"

def readText (index : Nat) (column : String) : TextCell → Except StoreFault String
  | .text s => .ok s
  | .bytes _ => .error (wrongType "Blob" index column)

def readText? (index : Nat) (column : String) :
    Option TextCell → Except StoreFault (Option String)
  | none => .ok none
  | some cell => some <$> readText index column cell

def readName : TextCell → Except StoreFault String :=
  readText 0 "name"

def readFlag : Cell → Except StoreFault Bool
  | .integer n => .ok (n ≠ 0)
  | .real => .error (wrongType "Real" 4 "include_sub_domains")
  | .text _ => .error (wrongType "Text" 4 "include_sub_domains")
  | .bytes _ => .error (wrongType "Blob" 4 "include_sub_domains")

def readStatus (name status : String) : Except StoreFault Status :=
  match Status.ofText? status with
  | some s => .ok s
  | none => .error (.corrupt name s!"unknown status '{status}'")

def readDate (name : String) : Option String → Except StoreFault (Option Instant)
  | none => .ok none
  | some raw =>
    match Rfc3339.read raw with
    | .ok t => .ok (some t)
    | .error fault => .error (.corrupt name s!"submission date '{raw}': {fault.message}")

/-- The record of the row of a name. The types of all columns are checked before any value is. -/
def toRecord (name : String) (row : Row) : Except StoreFault Record := do
  let status ← readText 1 "status" row.status
  let message ← readText 2 "message" row.message
  let submissionDate ← readText? 3 "submission_date" row.submissionDate
  let includeSubDomains ← readFlag row.includeSubDomains
  let policy ← readText 5 "policy" row.policy
  let status ← readStatus name status
  let submissionDate ← readDate name submissionDate
  return { name, status, message, submissionDate, includeSubDomains, policy := .ofText policy }

end Row

/-- A row as it is given, column by column. -/
structure GivenRow where
  name : Given
  status : Given
  message : Given
  submissionDate : Given
  includeSubDomains : Given
  policy : Given

/-- A table of rows by name. -/
structure Table where
  rows : Std.ExtTreeMap String Row := ∅
  /-- The rows whose name is no text. -/
  nameless : Std.ExtTreeMap (List UInt8) Row := ∅

namespace Table

/-- Writes a record over the row of its name. -/
def put (t : Table) (r : Record) : Table :=
  { t with rows := t.rows.insert r.name (.ofRecord r) }

/-- Why a row cannot be written: a column that must have a value and has no default is empty. -/
structure Refused where
  column : String
  deriving Repr, DecidableEq

def Refused.message (r : Refused) : String :=
  s!"NOT NULL constraint failed: domain_states.{r.column}"

/-- Writes a row over the one of its name. -/
def putRow (t : Table) (row : Row) : TextCell → Table
  | .text name => { t with rows := t.rows.insert name row }
  | .bytes name => { t with nameless := t.nameless.insert name row }

/-- Writes a row as it is given; an empty column takes its default. -/
def putGiven (t : Table) (g : GivenRow) : Except Refused Table :=
  match g.name.asText, g.status.asText with
  | none, _ => .error ⟨"name"⟩
  | _, none => .error ⟨"status"⟩
  | some name, some status =>
    .ok (t.putRow
      { status
        message := g.message.asText.getD (.text "")
        submissionDate := g.submissionDate.asText
        includeSubDomains := g.includeSubDomains.asInteger.getD (.integer 0)
        policy := g.policy.asText.getD (.text "") } name)

/-- The rows in the order of their names, which come before names that are no texts. -/
def inOrder (t : Table) : List (TextCell × Row) :=
  t.rows.toList.map (Prod.map .text id) ++ t.nameless.toList.map (Prod.map .bytes id)

/-- The rows with a status text, in the order of their names. -/
def rowsWithStatus (t : Table) (s : Status) : List (TextCell × Row) :=
  t.inOrder.filter fun (_, row) => row.status == .text s.text

/-- The record of a row under its name. -/
def readRow (name : TextCell) (row : Row) : Except StoreFault Record := do
  row.toRecord (← Row.readName name)

/-- The records of rows, or the fault of the first row that has none. -/
def readRows (rows : List (TextCell × Row)) : Except StoreFault (List Record) :=
  rows.mapM fun (name, row) => readRow name row

instance : RecordStore Table where
  find t domain :=
    match t.rows[domain]? with
    | some row => row.toRecord domain
    | none => .ok (.unseen domain)
  withStatus t s := readRows (t.rowsWithStatus s)
  namesWithStatus t s := (t.rowsWithStatus s).mapM fun (name, _) => Row.readName name
  all t := readRows t.inOrder
  check _ := .ok ()
  write t batch :=
    let after := batch.foldl put t
    { took := 0, outcome := .ok (), after, abandoned := t }

end Table

end HstsPreload
