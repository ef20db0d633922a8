import HstsPreload.Proofs.Failures
import HstsPreload.Proofs.Transparency

/-!
# Writing in batches is writing one by one

Records that are written in batches are stored as if they were written one after another. The first
batch that fails, or takes longer than the deadline, ends the run: what comes before it stays
written, nothing behind it is attempted, and the lines of progress tell the same.
-/

namespace HstsPreload

open Program

section Attempts

variable {σ : Type}

/-- The batch was written in time: within ten seconds, which it may use up. -/
def Attempt.Stores (a : Attempt σ) : Prop :=
  a.took ≤ 10000 ∧ a.outcome = .ok ()

/-- The batch was not written: it took more than ten seconds, or it failed within them. -/
def Attempt.FailsWith (a : Attempt σ) (fault : StoreFault) : Prop :=
  10000 < a.took ∧ fault = .timeout ⟨10, 0⟩ ∨ a.took ≤ 10000 ∧ a.outcome = .error fault

lemma Attempt.stores_or_fails (a : Attempt σ) : a.Stores ∨ ∃ fault, a.FailsWith fault := by
  by_cases hlate : 10000 < a.took
  · exact .inr ⟨_, .inl ⟨hlate, rfl⟩⟩
  · have htime : a.took ≤ 10000 := Nat.le_of_not_lt hlate
    cases ho : a.outcome with
    | ok u => exact .inl ⟨htime, ho⟩
    | error fault => exact .inr ⟨fault, .inr ⟨htime, ho⟩⟩

lemma Attempt.Stores.withinDeadline {a : Attempt σ} (h : a.Stores) :
    a.withinDeadline.1 = .ok () := by
  have hlimit : ¬1000 * deadlineSeconds < a.took := Nat.not_lt.mpr h.1
  rw [Attempt.withinDeadline, if_neg hlimit]
  exact h.2

lemma Attempt.FailsWith.withinDeadline {a : Attempt σ} {fault : StoreFault}
    (h : a.FailsWith fault) : a.withinDeadline.1 = .error fault := by
  rcases h with ⟨hlate, rfl⟩ | ⟨htime, hfault⟩
  · have hlimit : 1000 * deadlineSeconds < a.took := hlate
    rw [Attempt.withinDeadline, if_pos hlimit]
    rfl
  · have hlimit : ¬1000 * deadlineSeconds < a.took := Nat.not_lt.mpr htime
    rw [Attempt.withinDeadline, if_neg hlimit]
    exact hfault

end Attempts

def Access.batch? : Access → Option (List Record)
  | .commit batch => some batch
  | _ => none

namespace Writer

def doneLine (k : Nat) : String :=
  s!"Updating {k} entries... done.\n"

def failedLine (k : Nat) : String :=
  s!"Updating {k} entries... failed.\n"

lemma doneLine_eq (k : Nat) : s!"Updating {k} entries..." ++ " done.\n" = doneLine k := by
  simp only [doneLine, String.append_assoc]
  rfl

lemma failedLine_eq (k : Nat) : s!"Updating {k} entries..." ++ " failed.\n" = failedLine k := by
  simp only [failedLine, String.append_assoc]
  rfl

/-! ### The cut into batches -/

lemma length_le_of_mem_chunksFrom {α : Type} (size fuel : Nat) (xs : List α) :
    ∀ chunk ∈ chunksFrom size fuel xs, chunk.length ≤ size := by
  induction fuel generalizing xs with
  | zero => simp [chunksFrom]
  | succ fuel ih =>
    intro chunk hchunk
    rw [chunksFrom] at hchunk
    split at hchunk
    · cases hchunk
    · rcases List.mem_cons.mp hchunk with rfl | hmore
      · exact List.length_take_le size xs
      · exact ih _ chunk hmore

lemma length_of_mem_dropLast_chunksFrom {α : Type} (size fuel : Nat) (xs : List α) :
    ∀ chunk ∈ (chunksFrom size fuel xs).dropLast, chunk.length = size := by
  induction fuel generalizing xs with
  | zero => simp [chunksFrom]
  | succ fuel ih =>
    intro chunk hchunk
    rw [chunksFrom] at hchunk
    split at hchunk
    · cases hchunk
    · by_cases hrest : chunksFrom size fuel (xs.drop size) = []
      · rw [hrest] at hchunk
        cases hchunk
      · rw [List.dropLast_cons_of_ne_nil hrest] at hchunk
        rcases List.mem_cons.mp hchunk with rfl | hmore
        · -- something is left behind the first chunk, so there was enough to fill it
          have hleft : xs.drop size ≠ [] := by
            intro hnil
            apply hrest
            rw [hnil]
            cases fuel <;> rfl
          have hlong : size < xs.length := by
            by_contra hshort
            exact hleft (List.drop_eq_nil_of_le (Nat.le_of_not_lt hshort))
          rw [List.length_take]
          omega
        · exact ih _ chunk hmore

/-- The batches in front of another one hold 450 records each. -/
lemma flatten_of_batches_eq {updates : List Record} {before after : List (List Record)}
    {batch : List Record} (h : batches updates = before ++ batch :: after) :
    before.flatten = updates.take (450 * before.length) ∧
      450 * before.length < updates.length := by
  constructor
  · have htake := flatten_take_batches updates before.length
    rwa [h, List.take_left] at htake
  · apply lt_length_of_drop_batches
    rw [h, List.drop_left]
    exact List.cons_ne_nil batch after

end Writer

namespace RecordStore

variable {σ : Type} [RecordStore σ]

/-- The attempts to write batches one after another, each to the store that the one before it
left. -/
def attempts (s : σ) : List (List Record) → List (Attempt σ)
  | [] => []
  | batch :: more =>
    RecordStore.write s batch :: attempts (RecordStore.write s batch).withinDeadline.2 more

lemma attempts_cases (s : σ) (batches : List (List Record)) :
    (∀ a ∈ attempts s batches, a.Stores) ∨
      ∃ before batch after fault, batches = before ++ batch :: after ∧
        (∀ a ∈ attempts s before, a.Stores) ∧
        (RecordStore.write (afterWrites s before) batch).FailsWith fault := by
  induction batches generalizing s with
  | nil => exact .inl fun a ha => by cases ha
  | cons batch more ih =>
    rcases (RecordStore.write s batch).stores_or_fails with hstores | ⟨fault, hfails⟩
    · rcases ih (RecordStore.write s batch).withinDeadline.2 with hall | hfirst
      · exact .inl (List.forall_mem_cons.mpr ⟨hstores, hall⟩)
      · obtain ⟨before, next, after, fault, rfl, hbefore, hfails⟩ := hfirst
        exact .inr ⟨batch :: before, next, after, fault, rfl,
          List.forall_mem_cons.mpr ⟨hstores, hbefore⟩, hfails⟩
    · exact .inr ⟨[], batch, more, fault, rfl, fun a ha => (by cases ha), hfails⟩

end RecordStore

namespace World

section Attempted

variable {σ α β : Type} [RecordStore σ] {w : World σ} {batch : List Record}
  {more : List (List Record)} {fault : StoreFault}

/-- The world with what the store becomes when batches are written to it. -/
def afterWrites (w : World σ) (batches : List (List Record)) : World σ :=
  { w with store := RecordStore.afterWrites w.store batches }

/-- The batches that a program has the store write on its way, in order, whether or not they are
stored. -/
def attempted (w : World σ) : Program α → List (List Record)
  | .done _ => []
  | .step a next => a.batch?.toList ++ (w.answer a).2.attempted (next (w.answer a).1)

lemma attempted_bind (w : World σ) (p : Program β) (f : β → Program α) :
    w.attempted (p >>= f) = w.attempted p ++ (w.run p).2.attempted (f (w.run p).1) := by
  induction p generalizing w with
  | done b => rfl
  | step a next ih =>
    have hnext := ih (w.answer a).1 (w.answer a).2
    change a.batch?.toList ++ (w.answer a).2.attempted (next (w.answer a).1 >>= f) = _
    rw [hnext, ← List.append_assoc]
    rfl

lemma attempted_commitAll_of_ok (h : (w.answer (.commit batch)).1 = .ok ()) :
    w.attempted (Writer.commitAll (batch :: more)) =
      batch :: (w.answer (.commit batch)).2.attempted (Writer.commitAll more) := by
  rw [Writer.commitAll, attempted_bind]
  have hanswer : (w.run (access (.commit batch))).1 = .ok () := h
  rw [hanswer]
  dsimp only
  rw [attempted_bind]
  exact congrArg (batch :: ·) (List.append_nil _)

lemma attempted_commitAll_of_error (h : (w.answer (.commit batch)).1 = .error fault) :
    w.attempted (Writer.commitAll (batch :: more)) = [batch] := by
  rw [Writer.commitAll, attempted_bind]
  have hanswer : (w.run (access (.commit batch))).1 = .error fault := h
  rw [hanswer]
  rfl

lemma run_putAll_of_ne_nil {updates : List Record} (hne : updates ≠ []) :
    w.run (Writer.putAll updates) = w.run (Writer.commitAll (Writer.batches updates)) ∧
      w.attempted (Writer.putAll updates) =
        w.attempted (Writer.commitAll (Writer.batches updates)) := by
  have hsome : ¬updates.isEmpty = true := by simpa using hne
  rw [Writer.putAll, if_neg hsome]
  exact ⟨rfl, rfl⟩

end Attempted

variable {σ : Type} [RecordStore σ] [LawfulStore σ] {w : World σ} {batch : List Record}
  {before more : List (List Record)} {fault : StoreFault}

/-- What it comes to that the batches `before` are all written: the run goes on with `more`, on the
store that they leave. -/
structure Written (w : World σ) (before more : List (List Record)) : Prop where
  records : (w.afterWrites before).records = w.records.putAll before.flatten
  outcome : (w.run (Writer.commitAll (before ++ more))).1.outcome =
    ((w.afterWrites before).run (Writer.commitAll more)).1.outcome
  world : (w.run (Writer.commitAll (before ++ more))).2 =
    ((w.afterWrites before).run (Writer.commitAll more)).2
  text : (w.run (Writer.commitAll (before ++ more))).1.text =
    String.join (before.map fun batch => Writer.doneLine batch.length) ++
      ((w.afterWrites before).run (Writer.commitAll more)).1.text
  attempted : w.attempted (Writer.commitAll (before ++ more)) =
    before ++ (w.afterWrites before).attempted (Writer.commitAll more)

lemma written (more : List (List Record))
    (h : ∀ a ∈ RecordStore.attempts w.store before, a.Stores) : w.Written before more := by
  induction before generalizing w with
  | nil =>
    refine ⟨rfl, rfl, rfl, ?_, rfl⟩
    rw [List.map_nil, String.join_nil, String.empty_append]
    rfl
  | cons batch before ih =>
    obtain ⟨hbatch, hbefore⟩ := List.forall_mem_cons.mp h
    have hok : (w.answer (.commit batch)).1 = .ok () := hbatch.withinDeadline
    have hput : (w.answer (.commit batch)).2.records = w.records.putAll batch :=
      LawfulStore.write_ok hok
    obtain ⟨hrecords, houtcome, hworld, htext, hattempted⟩ :=
      ih (w := (w.answer (.commit batch)).2) hbefore
    refine ⟨?_, ?_, ?_, ?_, ?_⟩
    · rw [List.flatten_cons, Records.putAll_append, ← hput]
      exact hrecords
    · rw [List.cons_append, run_commitAll_of_ok hok]
      exact houtcome
    · rw [List.cons_append, run_commitAll_of_ok hok]
      exact hworld
    · have hline : (w.run (Writer.commitAll (batch :: (before ++ more)))).1.text =
          Writer.doneLine batch.length ++
            ((w.answer (.commit batch)).2.run (Writer.commitAll (before ++ more))).1.text := by
        rw [run_commitAll_of_ok hok, ← Writer.doneLine_eq]
        simp only [Writer.Report.text, String.join_cons, String.append_assoc]
      rw [List.cons_append, hline, htext, List.map_cons, String.join_cons, ← String.append_assoc]
      rfl
    · rw [List.cons_append, attempted_commitAll_of_ok hok]
      exact congrArg (batch :: ·) hattempted

/-- The batches before the first that is not written are those that are stored, and it is the last
that is attempted. -/
lemma run_commitAll_brokenOff (after : List (List Record))
    (hbefore : ∀ a ∈ RecordStore.attempts w.store before, a.Stores)
    (hfails : (RecordStore.write (RecordStore.afterWrites w.store before) batch).FailsWith fault) :
    let run := w.run (Writer.commitAll (before ++ batch :: after))
    run.1.outcome = .error fault ∧ run.2.records = w.records.putAll before.flatten ∧
      w.attempted (Writer.commitAll (before ++ batch :: after)) = before ++ [batch] ∧
      run.1.text = String.join (before.map fun batch => Writer.doneLine batch.length) ++
        Writer.failedLine batch.length := by
  intro run
  have herror : ((w.afterWrites before).answer (.commit batch)).1 = .error fault :=
    hfails.withinDeadline
  have hsame : ((w.afterWrites before).answer (.commit batch)).2.records =
      (w.afterWrites before).records := LawfulStore.write_error herror
  obtain ⟨hrecords, houtcome, hworld, htext, hattempted⟩ :=
    written (batch :: after) hbefore
  have hrun : (w.afterWrites before).run (Writer.commitAll (batch :: after)) = _ :=
    run_commitAll_of_error herror
  have hline : ((w.afterWrites before).run (Writer.commitAll (batch :: after))).1.text =
      Writer.failedLine batch.length := by
    rw [hrun, ← Writer.failedLine_eq]
    simp only [Writer.Report.text, String.join_cons, String.join_nil, String.append_empty]
  refine ⟨?_, ?_, ?_, ?_⟩
  · rw [houtcome, hrun]
  · rw [hworld, hrun, hsame, hrecords]
  · rw [hattempted, attempted_commitAll_of_error herror]
  · rw [htext, hline]

lemma run_putAll_stored {updates : List Record}
    (hall : ∀ a ∈ RecordStore.attempts w.store (Writer.batches updates), a.Stores) :
    let run := w.run (Writer.putAll updates)
    run.1.outcome = .ok () ∧ run.2.records = w.records.putAll updates ∧
      w.attempted (Writer.putAll updates) = Writer.batches updates ∧
      (updates ≠ [] → run.1.text =
        String.join ((Writer.batches updates).map fun batch => Writer.doneLine batch.length)) := by
  intro run
  by_cases hne : updates = []
  · subst hne
    exact ⟨rfl, rfl, rfl, fun h => (h rfl).elim⟩
  · obtain ⟨hrun, hattempts⟩ := run_putAll_of_ne_nil (w := w) hne
    have hsame : run = w.run (Writer.commitAll (Writer.batches updates)) := hrun
    obtain ⟨hrecords, houtcome, hworld, htext, hattempted⟩ := written [] hall
    rw [List.append_nil] at houtcome hworld htext hattempted
    rw [hsame, hattempts]
    refine ⟨houtcome, ?_, ?_, fun _ => ?_⟩
    · rw [hworld, ← Writer.flatten_batches updates, ← hrecords, Writer.flatten_batches]
      rfl
    · exact hattempted.trans (List.append_nil _)
    · exact htext.trans String.append_empty

lemma run_putAll_brokenOff {updates : List Record} {after : List (List Record)}
    (h : Writer.batches updates = before ++ batch :: after)
    (hbefore : ∀ a ∈ RecordStore.attempts w.store before, a.Stores)
    (hfails : (RecordStore.write (RecordStore.afterWrites w.store before) batch).FailsWith fault) :
    let run := w.run (Writer.putAll updates)
    run.1.outcome = .error fault ∧ run.2.records = w.records.putAll before.flatten ∧
      w.attempted (Writer.putAll updates) = before ++ [batch] ∧
      run.1.text = String.join (before.map fun batch => Writer.doneLine batch.length) ++
        Writer.failedLine batch.length := by
  intro run
  have hne : updates ≠ [] := by
    rintro rfl
    exact List.append_ne_nil_of_right_ne_nil before (List.cons_ne_nil batch after) h.symm
  obtain ⟨hrun, hattempts⟩ := run_putAll_of_ne_nil (w := w) hne
  rw [h] at hrun hattempts
  have hsame : run = w.run (Writer.commitAll (before ++ batch :: after)) := hrun
  rw [hsame, hattempts]
  exact run_commitAll_brokenOff after hbefore hfails

end World

/-- Writing a list of records is upserting them one by one, whatever their names and however many
there are. They are cut into batches of 450, of which only the last may be smaller and none is empty.
If every batch is written in time, all records are stored and each batch has its line. If the batch
that follows the batches `before` is the first that is not, the records of those are stored and no
others, the fault of that batch is reported, nothing behind it is attempted, and the lines tell so.
One of the two is the case. -/
theorem Writer.putAll_upserts_in_batches {σ : Type} [RecordStore σ] [LawfulStore σ] (w : World σ)
    (updates : List Record) :
    let report := (w.run (putAll updates)).1
    let stored := (w.run (putAll updates)).2.records
    let doneLines := fun written : List (List Record) =>
      String.join (written.map fun batch => doneLine batch.length)
    ((batches updates).flatten = updates ∧
      (∀ batch ∈ batches updates, batch ≠ [] ∧ batch.length ≤ 450) ∧
      ∀ batch ∈ (batches updates).dropLast, batch.length = 450) ∧
    ((∀ a ∈ RecordStore.attempts w.store (batches updates), a.Stores) ∨
      ∃ before batch after fault, batches updates = before ++ batch :: after ∧
        (∀ a ∈ RecordStore.attempts w.store before, a.Stores) ∧
        (RecordStore.write (RecordStore.afterWrites w.store before) batch).FailsWith fault) ∧
    ((∀ a ∈ RecordStore.attempts w.store (batches updates), a.Stores) →
      report.outcome = .ok () ∧ stored = updates.foldl Records.put w.records ∧
        w.attempted (putAll updates) = batches updates ∧
        (updates = [] → report.text = "No updates.\n") ∧
        (updates ≠ [] → report.text = doneLines (batches updates)) ∧
        ((batches updates).map List.length).sum = updates.length) ∧
    ∀ before batch after fault, batches updates = before ++ batch :: after →
      (∀ a ∈ RecordStore.attempts w.store before, a.Stores) →
      (RecordStore.write (RecordStore.afterWrites w.store before) batch).FailsWith fault →
      report.outcome = .error fault ∧
        stored = (updates.take (450 * before.length)).foldl Records.put w.records ∧
        w.attempted (putAll updates) = before ++ [batch] ∧
        report.text = doneLines before ++ failedLine batch.length ∧
        (before.map List.length).sum = 450 * before.length := by
  intro report stored doneLines
  refine ⟨⟨flatten_batches updates, fun batch hbatch => ⟨?_, ?_⟩, ?_⟩,
    RecordStore.attempts_cases _ _, fun hall => ?_, ?_⟩
  · exact ne_nil_of_mem_chunksFrom (by decide) _ _ batch hbatch
  · exact length_le_of_mem_chunksFrom 450 _ _ batch hbatch
  · exact length_of_mem_dropLast_chunksFrom 450 _ _
  · obtain ⟨houtcome, hstored, hattempted, htext⟩ := World.run_putAll_stored hall
    refine ⟨houtcome, hstored, hattempted, ?_, htext, ?_⟩
    · rintro rfl
      rfl
    · rw [← List.length_flatten, flatten_batches]
  · intro before batch after fault hbatches hbefore hfails
    obtain ⟨houtcome, hstored, hattempted, htext⟩ :=
      World.run_putAll_brokenOff hbatches hbefore hfails
    obtain ⟨hflat, hlong⟩ := flatten_of_batches_eq hbatches
    rw [hflat] at hstored
    refine ⟨houtcome, hstored, hattempted, htext, ?_⟩
    rw [← List.length_flatten, hflat, List.length_take, Nat.min_eq_left hlong.le]

namespace Late

def submitted : Record := { name := "a.example", status := .pending }

def listed : Record := { name := "a.example", status := .preloaded }

/-- One name in both batches, of which the second is one record more than fits the first. -/
def updates : List Record := List.replicate 450 submitted ++ [listed]

/-- A store that takes ten seconds for the first batch, and longer for the second. -/
def start : World MemoryStore := { store := { delays := [10000, 10001] } }

theorem second_batch_late :
    (start.run (Writer.putAll updates)).1.outcome = .error (.timeout ⟨10, 0⟩) ∧
      (start.run (Writer.putAll updates)).2.records =
        (updates.take 450).foldl Records.put start.records ∧
      (start.run (Writer.putAll updates)).1.text =
        "Updating 450 entries... done.\nUpdating 1 entries... failed.\n" := by
  have hbatches : Writer.batches updates = [List.replicate 450 submitted] ++ [listed] :: [] := by
    decide +kernel
  have hfirst : ∀ a ∈ RecordStore.attempts start.store [List.replicate 450 submitted],
      a.Stores := by
    intro a ha
    rw [List.mem_singleton.mp ha]
    exact ⟨Nat.le_refl 10000, rfl⟩
  obtain ⟨-, -, -, hlate⟩ := Writer.putAll_upserts_in_batches start updates
  obtain ⟨houtcome, hrecords, -, htext, -⟩ :=
    hlate _ _ _ (.timeout ⟨10, 0⟩) hbatches hfirst (.inl ⟨Nat.lt_succ_self 10000, rfl⟩)
  refine ⟨houtcome, hrecords, htext.trans ?_⟩
  dsimp only
  rw [List.map_singleton, List.length_replicate]
  rfl

end Late

end HstsPreload
