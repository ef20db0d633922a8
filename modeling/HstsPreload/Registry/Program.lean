import HstsPreload.Registry.Cache
import HstsPreload.Store.Basic

/-!
Programs over the store and the read cache. A program makes one access after another, and what it
does next depends on the answers; each access is atomic, and accesses of several programs may be
interleaved.
-/

namespace HstsPreload

/-- One access. -/
inductive Access where
  /-- Looks a domain up in the cache. -/
  | cached (domain : String)
  /-- Looks a status up in the cache. -/
  | cachedList (status : Status)
  /-- Asks for the generation of the cache. -/
  | generation
  /-- Reads the record of a domain from the store. -/
  | load (domain : String)
  /-- Reads the records of a status from the store. -/
  | loadList (status : Status)
  /-- Reads all records from the store. -/
  | loadAll
  /-- Asks whether the store answers. -/
  | check
  /-- Puts a record into the cache. -/
  | keep (generation : UInt64) (record : Record)
  /-- Puts the records of a status into the cache. -/
  | keepList (generation : UInt64) (status : Status) (records : List Record)
  /-- Writes a batch to the store within the deadline. -/
  | commit (batch : List Record)
  /-- Empties the cache. -/
  | invalidate

namespace Access

abbrev Answer : Access → Type
  | cached _ => Option Record
  | cachedList _ => Option (List Record)
  | generation => UInt64
  | load _ => Except StoreFault Record
  | loadList _ => Except StoreFault (List Record)
  | loadAll => Except StoreFault (List Record)
  | check => Except StoreFault Unit
  | keep _ _ => Unit
  | keepList _ _ _ => Unit
  | commit _ => Except StoreFault Unit
  | invalidate => Unit

/-- Whether an access reads from the store. -/
def isLoad : Access → Bool
  | load _ | loadList _ | loadAll => true
  | _ => false

end Access

/-- A program that ends with an answer of type `α`. -/
inductive Program (α : Type) where
  | done (answer : α)
  | step (access : Access) (next : access.Answer → Program α)

namespace Program

variable {α β : Type}

def bind : Program α → (α → Program β) → Program β
  | done a, f => f a
  | step access next, f => step access fun answer => (next answer).bind f

instance : Monad Program where
  pure := done
  bind := bind

def access (a : Access) : Program a.Answer :=
  step a done

end Program

/-- A store with the cache in front of it, and the time in milliseconds since it was opened. -/
structure World (σ : Type) where
  store : σ
  cache : Cache := {}
  time : Nat := 0

namespace World

variable {σ α : Type} [RecordStore σ]

/-- What an access answers, and the world after it. -/
def answer (w : World σ) : (a : Access) → a.Answer × World σ
  | .cached domain => (w.cache.find? w.time domain, w)
  | .cachedList s => (w.cache.withStatus? w.time s, w)
  | .generation => (w.cache.generation, w)
  | .load domain => (RecordStore.find w.store domain, w)
  | .loadList s => (RecordStore.withStatus w.store s, w)
  | .loadAll => (RecordStore.all w.store, w)
  | .check => (RecordStore.check w.store, w)
  | .keep g r => ((), { w with cache := w.cache.keep w.time g r })
  | .keepList g s rs => ((), { w with cache := w.cache.keepList w.time g s rs })
  | .commit batch =>
    let (outcome, store) := (RecordStore.write w.store batch).withinDeadline
    (outcome, { w with store })
  | .invalidate => ((), { w with cache := w.cache.invalidate })

/-- Runs a program to its end without interruption. -/
def run (w : World σ) : Program α → α × World σ
  | .done a => (a, w)
  | .step a next =>
    let (answer, w) := w.answer a
    w.run (next answer)

/-- Runs a program until it has read from the store once, or to its end. -/
def runPastLoad (w : World σ) : Program α → Program α × World σ
  | .done a => (.done a, w)
  | .step a next =>
    let (answer, w) := w.answer a
    if a.isLoad then (next answer, w) else w.runPastLoad (next answer)

/-- Runs `second` right after `first` has read from the store, then the rest of `first`. -/
def runWithin {β : Type} (w : World σ) (first : Program α) (second : Program β) :
    α × β × World σ :=
  let (rest, w) := w.runPastLoad first
  let (b, w) := w.run second
  let (a, w) := w.run rest
  (a, b, w)

end World

end HstsPreload
