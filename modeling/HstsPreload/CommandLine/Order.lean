import HstsPreload.CommandLine.Help
import HstsPreload.Text.Digits

/-!
The commands of the program: serving, which is what it does when no command is given, and updating a
file that holds the list.
-/

namespace HstsPreload.CommandLine

open HstsPreload.Text

def portRange : String := "0..=65535"

def readPort (value : String) : Except ValueFault Nat :=
  match readInt64 value.toList with
  | .error fault => .error (.invalid fault.message)
  | .ok n =>
    if 0 ≤ n ∧ n ≤ 65535 then .ok n.toNat else .error (.invalid s!"{n} is not in {portRange}")

def serveCommand : Command where
  name := "serve"
  about := "Start the HTTP service (default command)"
  params := [
    { name := "host", valueName := some "HOST",
      help := "Override the configured host for the HTTP server" },
    { name := "port", valueName := some "PORT",
      help := "Override the configured port for the HTTP server",
      check := fun value => (readPort value).map fun _ => () },
    { name := "local", help := "Keep domain states in a throwaway in-memory database" }]

/-- Updates a file that holds the list. -/
def updateListCommand : Command where
  name := "update-list"
  about := "Apply the registry's pending changes to a checkout of the preload list file"
  params := [
    { name := "list-path", valueName := some "LIST_PATH", isRequired := true,
      help := "Path to the JSON file containing the HSTS preload list",
      check := fun value => if value = "" then .error .absent else .ok () },
    { name := "service-url", valueName := some "SERVICE_URL",
      help := "Override the registry API base URL the pending lists are read from" }]

/-- The commands that do something. -/
def commands : List Command := [serveCommand, updateListCommand]

/-- What the program calls itself, with its version. -/
def versionText : String := "HSTS Preload Registry 0.1.0\n"

/-- What the help command does. -/
def helpAbout : String := "Print this message or the help of the given subcommand(s)"

def helpText (program : String) : String :=
  "Run the HSTS preload registry service and roll pending changes into the list\n\n"
    ++ s!"Usage: {program} [COMMAND]\n\nCommands:\n"
    ++ columns (commands.map (fun c => (c.name, c.about)) ++ [("help", helpAbout)])
    ++ "\nOptions:\n" ++ columns [helpRow, ("-V, --version", "Print version")]

/-- The help for the help command. -/
def helpHelpText (program : String) : String :=
  s!"{helpAbout}\n\nUsage: {program} help [COMMAND]...\n\nArguments:\n"
    ++ columns [("[COMMAND]...", "Print help for the subcommand(s)")]

/-- What a serving process is told. -/
structure ServeOptions where
  host : Option String := none
  port : Option Nat := none
  inMemory : Bool := false
  deriving Repr, DecidableEq

/-- What an update is told. -/
structure UpdateOptions where
  listPath : String
  serviceUrl : Option String := none
  deriving Repr, DecidableEq

/-- What the arguments ask for. -/
inductive Order where
  | serve (options : ServeOptions)
  | updateList (options : UpdateOptions)
  /-- To show a text. -/
  | tell (text : String)
  deriving Repr, DecidableEq

def readServe (arguments : List String) : Except Stop Order := do
  let g ← serveCommand.read arguments
  return .serve ⟨g.value? "host", (g.value? "port").bind fun v => (readPort v).toOption,
    g.has "local"⟩

def readUpdateList (arguments : List String) : Except Stop Order := do
  let g ← updateListCommand.read arguments
  return .updateList ⟨(g.value? "list-path").getD "", g.value? "service-url"⟩

/-- Answers a question for help with a text; other stops stay. -/
def orHelp (text : String) : Except Stop Order → Except UsageFault Order
  | .ok order => .ok order
  | .error .help => .ok (.tell text)
  | .error .version => .ok (.tell versionText)
  | .error (.fault f) => .error f

/-- The help for the commands that are named one after another. -/
def helpFor (program : String) : List String → Except UsageFault String
  | [] => .ok (helpText program)
  | name :: rest =>
    let text? :=
      if name = "help" then some (helpHelpText program)
      else (commands.find? (·.name == name)).map (·.helpText program)
    match text?, rest with
    | none, _ => .error (.unknownCommand name)
    | some text, [] => .ok text
    | some _, more :: _ => .error (.unknownCommand more)

def isCommand (word : String) : Bool :=
  word == "help" || commands.any (·.name == word)

/-- Reads an argument that stands where a command should. -/
def readOther (argument : String) : Except Stop Order :=
  match argument.toList with
  | '-' :: '-' :: long =>
    let label := String.ofList (long.takeWhile (· ≠ '='))
    match long.drop label.length with
    | [] =>
      if label = "help" then .error .help
      else if label = "version" then .error .version
      else .error (.fault (.unexpected ("--" ++ label)))
    | _ :: value =>
      if label = "help" ∨ label = "version" then
        .error (.fault (.unneededValue (.ofList value) ("--" ++ label)))
      else .error (.fault (.unexpected ("--" ++ label)))
  | '-' :: short :: _ =>
    if short = 'h' then .error .help
    else if short = 'V' then .error .version
    else .error (.fault (.unexpected (.ofList ['-', short])))
  | _ => .error (.fault (.unknownCommand argument))

/-- Reads the arguments of the program. -/
def read (program : String) : List String → Except UsageFault Order
  | [] | ["--"] => .ok (.serve {})
  | argument :: rest =>
    if argument = "serve" then orHelp (serveCommand.helpText program) (readServe rest)
    else if argument = "update-list" then
      orHelp (updateListCommand.helpText program) (readUpdateList rest)
    else if argument = "help" then (helpFor program rest).map .tell
    else if argument = "--" then
      let word := rest.headD ""
      .error (if isCommand word then .unexpected word else .unknownCommand word)
    else orHelp (helpText program) (readOther argument)

end HstsPreload.CommandLine
