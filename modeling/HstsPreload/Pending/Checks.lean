/-!
Checking many names at once. The checks end in any order, so the names that are kept are put in order
at the end.
-/

namespace HstsPreload.Checks

/-- What comes of one check. -/
inductive Outcome where
  | keep
  | drop
  /-- The check broke off, which counts as no answer. -/
  | crash
  deriving Repr, DecidableEq

/-- The outcome of a check that always ends. -/
def Outcome.ofBool (keep : Bool) : Outcome :=
  if keep then .keep else .drop

/-- How many checks may be under way at once. -/
def parallelism : Nat := 500

/-- The names kept of those whose checks have ended, in order. -/
def kept (check : String → Outcome) (ended : List String) : List String :=
  (ended.filter fun name => check name == .keep).mergeSort

/-- Checks that have not ended yet, and the names kept so far in the order their checks ended. -/
structure Pool where
  waiting : List String
  running : List String := []
  kept : List String := []
  deriving Repr, DecidableEq

namespace Pool

/-- Starts the first check that waits, if there is one and not too many are under way. -/
def start? (p : Pool) : Option Pool :=
  match p.waiting with
  | [] => none
  | name :: waiting =>
    if p.running.length < parallelism then
      some { p with waiting, running := p.running ++ [name] }
    else none

/-- Ends one of the checks under way. -/
def finish (check : String → Outcome) (name : String) (p : Pool) : Pool where
  waiting := p.waiting
  running := p.running.erase name
  kept := if check name = .keep then p.kept ++ [name] else p.kept

/-- What may happen next: a check starts, or any of those under way ends. -/
inductive Step (check : String → Outcome) : Pool → Pool → Prop where
  | start {p q : Pool} (h : p.start? = some q) : Step check p q
  | finish {p : Pool} {name : String} (h : name ∈ p.running) :
      Step check p (p.finish check name)

def isDone (p : Pool) : Bool :=
  p.waiting.isEmpty && p.running.isEmpty

end Pool

end HstsPreload.Checks
