import HstsPreload.Registry.Program

/-!
Writing many records: in batches of limited size, one after another, with a line of progress for
each. The first batch that fails ends the run; the batches before it stay written.
-/

namespace HstsPreload.Writer

def batchSize : Nat := 450

/-- Cuts a list into pieces of `size`, with fuel for the pieces. -/
def chunksFrom {α : Type} (size : Nat) : Nat → List α → List (List α)
  | 0, _ => []
  | fuel + 1, xs => if xs = [] then [] else xs.take size :: chunksFrom size fuel (xs.drop size)
  termination_by structural fuel => fuel

/-- What writing told as it went along, and how it ended. -/
structure Report where
  progress : List String
  outcome : Except StoreFault Unit

def Report.text (r : Report) : String :=
  String.join r.progress

def batches (updates : List Record) : List (List Record) :=
  chunksFrom batchSize updates.length updates

/-- Writes batches until one fails. -/
def commitAll : List (List Record) → Program Report
  | [] => return ⟨[], .ok ()⟩
  | batch :: more => do
    let start := s!"Updating {batch.length} entries..."
    match ← Program.access (.commit batch) with
    | .ok () =>
      let r ← commitAll more
      return ⟨start :: " done.\n" :: r.progress, r.outcome⟩
    | .error fault => return ⟨[start, " failed.\n"], .error fault⟩

/-- Writes records; with none to write the store is left alone. -/
def putAll (updates : List Record) : Program Report :=
  if updates.isEmpty then return ⟨["No updates.\n"], .ok ()⟩ else commitAll (batches updates)

end HstsPreload.Writer
