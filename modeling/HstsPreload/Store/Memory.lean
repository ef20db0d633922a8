import HstsPreload.Store.Basic
import Std.Data.ExtTreeMap

/-!
A store in memory, which can be made to fail: for every call, for every write after a number of
them, or by taking time.
-/

namespace HstsPreload

abbrev Records : Type := Std.ExtTreeMap String Record

namespace Records

/-- The records in the order of their names. -/
def inOrder (rs : Records) : List Record :=
  rs.toList.map Prod.snd

/-- The record of a domain; one that was never written is unknown. -/
def get (rs : Records) (domain : String) : Record :=
  (rs[domain]?).getD (.unseen domain)

/-- Writes a record under its name. -/
def put (rs : Records) (r : Record) : Records :=
  rs.insert r.name r

/-- Writes records one after another. -/
def putAll (rs : Records) (batch : List Record) : Records :=
  batch.foldl put rs

/-- The records with a status, in the order of their names. -/
def withStatus (rs : Records) (s : Status) : List Record :=
  rs.inOrder.filter fun r => r.status == s

end Records

structure MemoryStore where
  records : Records := ∅
  /-- Whether every call fails. -/
  down : Bool := false
  /-- How many more batches may be written, if that is limited. -/
  writesLeft : Option Nat := none
  /-- How many milliseconds each of the next writes takes; others take none. -/
  delays : List Nat := []
  /-- The sizes of the batches written so far. -/
  batchSizes : List Nat := []

namespace MemoryStore

/-- The failure of a store that was told to fail. -/
def forcedFailure : StoreFault :=
  .unavailable "forced failure"

/-- Answers unless every call fails. -/
def answer {α : Type} (s : MemoryStore) (a : α) : Except StoreFault α :=
  if s.down then .error forcedFailure else .ok a

/-- Writes a batch, however long it takes. -/
def writeBatch (s : MemoryStore) (batch : List Record) : Except StoreFault Unit × MemoryStore :=
  if s.down ∨ s.writesLeft = some 0 then (.error forcedFailure, s)
  else
    (.ok (), { s with
      records := s.records.putAll batch
      writesLeft := s.writesLeft.map (· - 1)
      batchSizes := s.batchSizes ++ [batch.length] })

/-- The store once its next write has had its time. -/
def pastDelay (s : MemoryStore) : MemoryStore :=
  { s with delays := s.delays.tail }

instance : RecordStore MemoryStore where
  find s domain := s.answer (s.records.get domain)
  withStatus s status := s.answer (s.records.withStatus status)
  namesWithStatus s status := s.answer ((s.records.withStatus status).map Record.name)
  all s := s.answer s.records.inOrder
  check s := s.answer ()
  write s batch :=
    let (outcome, after) := s.pastDelay.writeBatch batch
    { took := s.delays.headD 0, outcome, after, abandoned := s.pastDelay }

end MemoryStore

end HstsPreload
