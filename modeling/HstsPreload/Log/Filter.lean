import HstsPreload.Log.Directive
import HstsPreload.Text.Lines

/-!
Log filters: directives with the most specific first. What holds everywhere comes before what depends
on spans and fields.
-/

namespace HstsPreload.Log

open HstsPreload.Text

/-- Compares what may be missing; what is missing comes first. -/
def orderOption {α : Type} (order : α → α → Ordering) : Option α → Option α → Ordering
  | some a, some b => order a b
  | some _, none => .gt
  | none, some _ => .lt
  | none, none => .eq

/-- Compares names by their length in bytes. -/
def orderLength (a b : String) : Ordering :=
  compare a.utf8ByteSize b.utf8ByteSize

namespace Directive

/-- How specific directives are: first by the length of the target, then by that of the span, then by
whether there is a field; what is left is decided by the texts. -/
def specificity (a b : Directive) : Ordering :=
  (orderOption orderLength a.target b.target)
    |>.then (orderOption orderLength a.span b.span)
    |>.then (orderOption (fun _ _ => .eq) a.field b.field)
    |>.then (orderOption compare a.target b.target)
    |>.then (orderOption compare a.span b.span)
    |>.then (orderOption FieldMatch.order a.field b.field)

/-- Puts a directive before those that are less specific; one for the same place is replaced. -/
def insert (d : Directive) : List Directive → List Directive
  | [] => [d]
  | e :: rest =>
    match specificity d e with
    | .gt => d :: e :: rest
    | .eq => d :: rest
    | .lt => e :: insert d rest

/-- Directives with the most specific first, the last for each place. -/
def sort (ds : List Directive) : List Directive :=
  ds.foldl (fun sorted d => insert d sorted) []

end Directive

structure Filter where
  statics : List Directive
  dynamics : List Directive
  deriving Repr, DecidableEq, Inhabited

namespace Filter

/-- The filter of directives. One that depends on a field alone also holds ahead of time; without any
directive, errors are logged. -/
def ofDirectives (ds : List Directive) : Filter :=
  if ds = [] then ⟨[{ level := .error }], []⟩
  else
    let dynamics := ds.filter Directive.isDynamic
    ⟨Directive.sort (ds.filter (!·.isDynamic) ++ dynamics.filter Directive.isStatic),
      Directive.sort dynamics⟩

/-- Reads directives between commas. -/
def parse (cs : List Char) : Except DirectiveFault Filter := do
  let ds ← ((splitAt ',' cs).filter (· ≠ [])).mapM Directive.parse
  return .ofDirectives ds

def text (f : Filter) : String :=
  .ofList (joinWith ',' ((f.statics ++ f.dynamics).map Directive.text))

end Filter

/-- Why logging cannot be set up. -/
inductive Fault where
  | filter (value : String) (fault : DirectiveFault)
  | subscriber (detail : String)
  deriving Repr, DecidableEq

def Fault.message : Fault → String
  | .filter value _ => s!"invalid log level/filter '{value}': unable to build EnvFilter"
  | .subscriber detail => s!"telemetry error: {detail}"

def Fault.source? : Fault → Option String
  | .filter _ fault => some fault.message
  | .subscriber _ => none

/-- Libraries of which only warnings are logged. -/
def quietLibraries : List String := ["hyper=warn", "reqwest=warn", "rustls=warn"]

/-- The filter for a level or directives from the settings. -/
def fallback (level : String) : Except Fault Filter :=
  let value := ",".intercalate (String.ofList (trim level.toList) :: quietLibraries)
  (Filter.parse value.toList).mapError (.filter value)

/-- The filter that is used: the one the environment gives if it can be read, otherwise the one from
the settings. -/
def choose (given : Option String) (level : String) : Except Fault Filter :=
  match given.map fun value => Filter.parse value.toList with
  | some (.ok f) => .ok f
  | _ => fallback level

end HstsPreload.Log
