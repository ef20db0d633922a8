/-!
Named parameters of a command, and how they are taken from arguments. A parameter takes a value in the
same argument after an equals sign, or in the next one; it is checked as soon as what follows shows that
it is complete.
-/

namespace HstsPreload.CommandLine

/-- Why a value is not accepted. -/
inductive ValueFault where
  /-- An empty value counts as none. -/
  | absent
  | invalid (reason : String)
  deriving Repr, DecidableEq

/-- A named parameter. One without a name for its value is a switch. -/
structure Param where
  name : String
  valueName : Option String := none
  help : String
  isRequired : Bool := false
  check : String → Except ValueFault Unit := fun _ => .ok ()

def Param.text (p : Param) : String :=
  match p.valueName with
  | some value => s!"--{p.name} <{value}>"
  | none => "--" ++ p.name

/-- A command: its name, what it does and what can be given to it. -/
structure Command where
  name : String
  about : String
  params : List Param

/-- What is wrong with arguments. -/
inductive UsageFault where
  | unexpected (argument : String)
  | unknownCommand (name : String)
  | missingParams (params : List String)
  | missingValue (param : String)
  | invalidValue (value param reason : String)
  | repeated (param : String)
  | unneededValue (value param : String)
  deriving Repr, DecidableEq

def UsageFault.message : UsageFault → String
  | .unexpected argument => s!"unexpected argument '{argument}' found"
  | .unknownCommand name => s!"unrecognized subcommand '{name}'"
  | .missingParams params =>
    "the following required arguments were not provided:"
      ++ String.join (params.map fun p => s!"\n  {p}")
  | .missingValue param => s!"a value is required for '{param}' but none was supplied"
  | .invalidValue value param reason => s!"invalid value '{value}' for '{param}': {reason}"
  | .repeated param => s!"the argument '{param}' cannot be used multiple times"
  | .unneededValue value param =>
    s!"unexpected value '{value}' for '{param}' found; no more were expected"

/-- Why reading arguments ends before all have been read. -/
inductive Stop where
  | fault (f : UsageFault)
  /-- Help is asked for. -/
  | help
  /-- The version is asked for. -/
  | version
  deriving Repr, DecidableEq

/-- A parameter that has been named, with its value once that has come. -/
structure Pending where
  param : Param
  value : Option String := none

/-- What has been taken from arguments. -/
structure Given where
  values : List (String × String) := []
  pending : Option Pending := none

namespace Given

def value? (g : Given) (name : String) : Option String :=
  (g.values.find? (·.1 == name)).map Prod.snd

def has (g : Given) (name : String) : Bool :=
  (g.value? name).isSome

/-- Takes in a parameter that is complete. -/
def take (g : Given) (p : Param) (value : Option String) : Except Stop Given := do
  if p.valueName.isSome && value.isNone then .error (.fault (.missingValue p.text))
  if g.has p.name then .error (.fault (.repeated p.text))
  let value := value.getD ""
  match p.check value with
  | .ok () => return { values := g.values ++ [(p.name, value)], pending := none }
  | .error .absent => .error (.fault (.missingValue p.text))
  | .error (.invalid reason) => .error (.fault (.invalidValue value p.text reason))

/-- Takes in the parameter that is pending. -/
def settle (g : Given) : Except Stop Given :=
  match g.pending with
  | none => .ok g
  | some p => take { g with pending := none } p.param p.value

/-- Names a parameter, with what is attached to it. -/
def start (g : Given) (p : Param) (attached : Option String) : Except Stop Given := do
  match p.valueName, attached with
  | none, some value => .error (.fault (.unneededValue value p.text))
  | none, none => take (← g.settle) p none
  | some _, some value => take (← g.settle) p (some value)
  | some _, none => return { ← g.settle with pending := some ⟨p, none⟩ }

/-- Reads an argument that starts with two dashes. -/
def readLong (c : Command) (g : Given) (cs : List Char) : Except Stop Given :=
  let label := cs.takeWhile (· ≠ '=')
  let attached := match cs.drop label.length with
    | [] => none
    | _ :: value => some (String.ofList value)
  let label := String.ofList label
  match c.params.find? (·.name == label) with
  | some p => g.start p attached
  | none =>
    if label = "help" then
      match attached with
      | some value => .error (.fault (.unneededValue value "--help"))
      | none => g.settle.bind fun _ => .error .help
    else .error (.fault (.unexpected ("--" ++ label)))

def readArgument (c : Command) (g : Given) (argument : String) : Except Stop Given :=
  match argument.toList with
  | '-' :: '-' :: long => readLong c g long
  | '-' :: short :: _ =>
    if short = 'h' then g.settle.bind fun _ => .error .help
    else .error (.fault (.unexpected (.ofList ['-', short])))
  | _ =>
    match g.pending with
    | some ⟨p, none⟩ => .ok { g with pending := some ⟨p, some argument⟩ }
    | _ => .error (.fault (.unexpected argument))

/-- Reads arguments; after two dashes none may follow. -/
def readArguments (c : Command) : Given → List String → Except Stop Given
  | g, [] => g.settle
  | g, argument :: rest =>
    if argument = "--" then
      match rest with
      | [] => g.settle
      | extra :: _ => .error (.fault (.unexpected extra))
    else do readArguments c (← readArgument c g argument) rest

end Given

/-- Reads the arguments of a command, all of whose required parameters must be there. -/
def Command.read (c : Command) (arguments : List String) : Except Stop Given := do
  let g ← Given.readArguments c {} arguments
  match c.params.filter fun p => p.isRequired && !g.has p.name with
  | [] => return g
  | missing => .error (.fault (.missingParams (missing.map Param.text)))

end HstsPreload.CommandLine
