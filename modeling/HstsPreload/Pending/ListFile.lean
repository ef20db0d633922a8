import HstsPreload.Pending.Fault
import HstsPreload.Text.Utf8

/-!
The file that holds the list, and the report on what was done to it.
-/

namespace HstsPreload

open HstsPreload.Text

/-- The bytes of a file, if there is one. -/
abbrev FileContent : Type := Option (List UInt8)

def FileContent.text : FileContent → Except FileFault String
  | none => .error .missing
  | some bytes =>
    match Utf8.decode bytes with
    | .ok cs => .ok (.ofList cs)
    | .error _ => .error .notText

def FileContent.ofText (text : String) : FileContent :=
  some (Utf8.encode text.toList)

namespace ListText

/-- Makes changes in the list that a file holds. The file is written only if that works. -/
def updateFile (file : FileContent) (changes : PendingChanges) :
    Except PendingFault Updated × FileContent :=
  match file.text with
  | .error fault => (.error (.file fault), file)
  | .ok contents =>
    match update contents changes with
    | .error fault => (.error (.entry fault), file)
    | .ok updated => (.ok updated, .ofText updated.contents)

/-- What operators are told once the list has been updated. -/
def report (duplicates : List String) : String :=
  if duplicates = [] then "SUCCESS\n"
  else
    "WARNING\nDuplicate entries:\n" ++ String.join (duplicates.map fun d => s!"- {d}\n")
      ++ "You'll need to manually deduplicate entries before committing them upstream.\n"
      ++ "Note: if there are a lot of duplicate entries, the tool may have run twice on the same "
      ++ "checkout. Reset it and try again.\n"

end ListText

end HstsPreload
