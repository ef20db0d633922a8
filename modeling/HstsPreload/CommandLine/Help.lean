import HstsPreload.CommandLine.Param

/-!
What is shown to those who ask for help.
-/

namespace HstsPreload.CommandLine

/-- A text with spaces behind it, `width` characters long. -/
def padded (width : Nat) (text : String) : String :=
  text ++ String.ofList (List.replicate (width - text.length) ' ')

/-- Rows of two columns. -/
def columns (rows : List (String × String)) : String :=
  let width := (rows.map (·.1.length)).foldl max 0
  String.join (rows.map fun (left, right) => s!"  {padded width left}  {right}\n")

/-- The row of a parameter, in line with those that have a short form. -/
def Param.row (p : Param) : String × String :=
  ("    " ++ p.text, p.help)

def helpRow : String × String := ("-h, --help", "Print help")

/-- The parts of a command after its name, as they are shown: optional ones together, required ones
by name. -/
def Command.usage (c : Command) : String :=
  String.join <|
    (if c.params.any (!·.isRequired) then [" [OPTIONS]"] else [])
      ++ ((c.params.filter Param.isRequired).map fun p => " " ++ p.text)

def Command.helpText (program : String) (c : Command) : String :=
  s!"{c.about}\n\nUsage: {program} {c.name}{c.usage}\n\nOptions:\n"
    ++ columns (c.params.map Param.row ++ [helpRow])

end HstsPreload.CommandLine
