import HstsPreload.Proofs.Operations
import HstsPreload.Proofs.Refinement

/-!
# What failures leave behind

A request that reports that it could not be carried out has changed no record. An update that
breaks off has written whole batches of its plan, those before the first that failed.
-/

namespace HstsPreload

open Program

variable {σ : Type} [RecordStore σ] [LawfulStore σ]

def Reply.issues? : Reply → Option Issues
  | .decided (.ok issues) | .set issues => some issues
  | _ => none

namespace Operation

/-- What the scanner finds before an operation does anything. -/
def verdict (reg : Registry) : Operation → Issues
  | submit domain => reg.scanner.preloadable domain
  | remove domain => reg.scanner.removable domain
  | setPreloaded _ | update => {}

/-- How an operation on one domain reports that it could not save the record. -/
def unsaved? : Operation → Option Issue
  | submit _ => some Registry.saveFailed
  | remove _ => some Registry.removalFailed
  | setPreloaded _ => some Registry.setPreloadedFailed
  | update => none

/-- How an operation on one domain may end that found the records `start`. -/
inductive Ends (reg : Registry) (op : Operation) (start rs : Records) : Reply → Prop where
  | unread (fault : RegistryFault) : rs = start → Ends reg op start rs (.decided (.error fault))
  | unsaved {reply : Reply} (e : Issue) : rs = start → op.unsaved? = some e →
      reply.issues? = some ((op.verdict reg).pushError e) → Ends reg op start rs reply
  | saved {reply : Reply} : (op.verdict reg).errors = [] →
      reply.issues? = some (op.verdict reg) → Ends reg op start rs reply
  | declined {reply : Reply} {issues : Issues} : rs = start → reply.issues? = some issues →
      (issues.errors = (op.verdict reg).errors ∨
        issues = (op.verdict reg).pushError Record.protectedFromRemoval) →
      Ends reg op start rs reply

end Operation

namespace Registry

variable {reg : Registry} {rs : Records}

lemma keeps_persist_alone (hb : reg.Batched) (r : Record) :
    (reg.persist r).Keeps (.alone fun _ => True)
      (fun rs' outcome => ∀ fault, outcome = .error fault → rs' = rs) rs :=
  keeps_persist hb r (fun _ _ => ⟨fun _ => trivial, fun _ _ _ h => by cases h⟩)
    fun _ _ hr _ _ => hr.symm

lemma keeps_submit_ends (hb : reg.Batched) (domain : String) :
    (Operation.program reg (.submit domain)).Keeps (.alone fun _ => True)
      ((Operation.submit domain).Ends reg rs) rs := by
  have hsubmit : (reg.submit domain).Keeps (.alone fun _ => True)
      (fun rs' answer => (Operation.submit domain).Ends reg rs rs' (.decided answer)) rs := by
    unfold submit
    dsimp only
    split
    · refine Keeps.load ?_ ?_
      · rintro _ rfl
        dsimp only
        split
        · exact Keeps.pure fun _ hr => .declined hr.symm rfl (.inl rfl)
        · exact Keeps.pure fun _ hr => .declined hr.symm rfl (.inl rfl)
      · rintro _ fault rfl
        exact Keeps.pure fun _ hr => .declined hr.symm rfl (.inl rfl)
    · next hclean =>
      have herrors : (reg.scanner.preloadable domain).errors = [] := by
        simpa [Issues.hasErrors] using hclean
      refine Keeps.load ?_ ?_
      · rintro _ rfl
        dsimp only
        split
        · refine (keeps_persist_alone hb _).bind fun rs' outcome hout => ?_
          cases outcome with
          | ok u => exact Keeps.pure fun _ _ => .saved herrors rfl
          | error fault =>
            exact Keeps.pure fun _ hr => .unsaved saveFailed (hr ▸ hout fault rfl) rfl rfl
        · exact Keeps.pure fun _ hr => .declined hr.symm rfl (.inl rfl)
        · exact Keeps.pure fun _ hr => .declined hr.symm rfl (.inl rfl)
      · rintro _ fault rfl
        exact Keeps.pure fun _ hr => .unread _ hr.symm
  exact hsubmit.bind fun rs' answer h => Keeps.pure fun _ hr => hr ▸ h

lemma keeps_remove_ends (hb : reg.Batched) (domain : String) :
    (Operation.program reg (.remove domain)).Keeps (.alone fun _ => True)
      ((Operation.remove domain).Ends reg rs) rs := by
  have hremove : (reg.remove domain).Keeps (.alone fun _ => True)
      (fun rs' answer => (Operation.remove domain).Ends reg rs rs' (.decided answer)) rs := by
    unfold remove
    dsimp only
    split
    · exact Keeps.pure fun _ hr => .declined hr.symm rfl (.inl rfl)
    · next hclean =>
      have herrors : (reg.scanner.removable domain).errors = [] := by
        simpa [Issues.hasErrors] using hclean
      refine Keeps.load ?_ ?_
      · rintro _ rfl
        dsimp only
        split
        · refine (keeps_persist_alone hb _).bind fun rs' outcome hout => ?_
          cases outcome with
          | ok u => exact Keeps.pure fun _ _ => .saved herrors rfl
          | error fault =>
            exact Keeps.pure fun _ hr => .unsaved removalFailed (hr ▸ hout fault rfl) rfl rfl
        · exact Keeps.pure fun _ hr => .declined hr.symm rfl (.inl rfl)
        · next hrefuse =>
          obtain ⟨rfl, -, -⟩ := Record.onRemove_refuse hrefuse
          exact Keeps.pure fun _ hr => .declined hr.symm rfl (.inr rfl)
      · rintro _ fault rfl
        exact Keeps.pure fun _ hr => .unread _ hr.symm
  exact hremove.bind fun rs' answer h => Keeps.pure fun _ hr => hr ▸ h

lemma keeps_setPreloaded_ends (hb : reg.Batched) (domain : String) :
    (Operation.program reg (.setPreloaded domain)).Keeps (.alone fun _ => True)
      ((Operation.setPreloaded domain).Ends reg rs) rs := by
  have hset : (reg.setPreloaded domain).Keeps (.alone fun _ => True)
      (fun rs' issues => (Operation.setPreloaded domain).Ends reg rs rs' (.set issues)) rs := by
    refine (keeps_persist_alone hb _).bind fun rs' outcome hout => ?_
    cases outcome with
    | ok u => exact Keeps.pure fun _ _ => .saved rfl rfl
    | error fault =>
      exact Keeps.pure fun _ hr => .unsaved setPreloadedFailed (hr ▸ hout fault rfl) rfl rfl
  exact hset.bind fun rs' issues h => Keeps.pure fun _ hr => hr ▸ h

end Registry

lemma Operation.keeps_ends {reg : Registry} (hb : reg.Batched) {op : Operation}
    (hop : op ≠ .update) (rs : Records) :
    (op.program reg).Keeps (.alone fun _ => True) (op.Ends reg rs) rs := by
  cases op with
  | submit domain => exact Registry.keeps_submit_ends hb domain
  | remove domain => exact Registry.keeps_remove_ends hb domain
  | setPreloaded domain => exact Registry.keeps_setPreloaded_ends hb domain
  | update => exact (hop rfl).elim

namespace Operation.Ends

variable {reg : Registry} {op : Operation} {start rs : Records} {reply : Reply}

lemma of_fault {fault : RegistryFault} (h : op.Ends reg start rs (.decided (.error fault))) :
    rs = start := by
  cases h with
  | unread _ hrs => exact hrs
  | unsaved _ hrs _ _ => exact hrs
  | saved _ hissues => cases hissues
  | declined hrs _ _ => exact hrs

/-- Where the findings tell that the record could not be saved, nothing was changed, and the
telling is all that was added; unless the scanner itself tells so. -/
lemma of_unsaved (h : op.Ends reg start rs reply) {issues : Issues}
    (hissues : reply.issues? = some issues) {e : Issue} (he : op.unsaved? = some e)
    (hcode : e.code ∈ issues.errorCodes) :
    rs = start ∧
      (issues = (op.verdict reg).pushError e ∨ e.code ∈ (op.verdict reg).errorCodes) := by
  cases h with
  | unread _ _ => cases hissues
  | unsaved e' hrs he' hissues' =>
    rw [he] at he'
    rw [hissues] at hissues'
    cases he'
    exact ⟨hrs, .inl (Option.some.inj hissues')⟩
  | saved herrors hissues' =>
    rw [hissues] at hissues'
    obtain rfl := Option.some.inj hissues'
    rw [Issues.errorCodes, herrors] at hcode
    cases hcode
  | declined hrs hissues' herrors =>
    rw [hissues] at hissues'
    obtain rfl := Option.some.inj hissues'
    refine ⟨hrs, .inr ?_⟩
    rcases herrors with herrors | rfl
    · rwa [Issues.errorCodes, herrors] at hcode
    · have hother : e.code ≠ Record.protectedFromRemoval.code := by
        cases op with
        | update => cases he
        | _ => cases he; decide
      simpa [Issues.errorCodes, Issues.pushError, hother] using hcode

end Operation.Ends

lemma Plan.outcome_report (p : Plan) (w : Writer.Report) :
    (∃ n, (p.report w).outcome = .ok n) ∨
      ∃ told fault, (p.report w).outcome = .error (.write told fault) := by
  unfold report
  split
  · exact .inl ⟨_, rfl⟩
  · exact .inr ⟨_, _, rfl⟩

lemma Registry.keeps_update_unplanned {reg : Registry} (hb : reg.Batched) (rs : Records) :
    reg.update.Keeps (.alone fun _ => True) (fun rs' r => ∀ fault, r.outcome = .error fault →
      (∀ told f, fault ≠ .write told f) → rs' = rs ∧ r.text = "") rs := by
  unfold update
  have hplan : reg.planUpdate.Keeps (.alone fun _ => True) (fun rs' _ => rs' = rs) rs := by
    refine reg.keeps_planUpdate ?_ ?_
    · rintro _ _ _ _ _ _ rfl rfl rfl rfl
      rfl
    · rintro _ fault rfl -
      rfl
  refine hplan.bind fun rs₁ answer hrs => ?_
  cases answer with
  | error fault => exact Keeps.pure fun _ hr _ _ _ => ⟨hr ▸ hrs, rfl⟩
  | ok p =>
    have hwritten : (reg.put p.updates).Keeps (.alone fun _ => True) (fun _ _ => True) rs₁ := by
      rw [hb]
      exact (Writer.keeps_putAll (fun _ _ => True) (fun _ _ _ _ _ => trivial)
        (fun _ _ _ _ => ⟨fun _ => trivial, trivial⟩) _ _ trivial).mono fun _ _ _ => trivial
    have happly : (reg.applyPlan p).Keeps (.alone fun _ => True)
        (fun _ r => (∃ n, r.outcome = .ok n) ∨ ∃ told f, r.outcome = .error (.write told f))
        rs₁ :=
      hwritten.bind fun _ w _ => Keeps.invalidate fun _ _ => Keeps.pure fun _ _ =>
        p.outcome_report w
    refine happly.bind fun _ r houtcome => Keeps.pure fun _ _ fault hfault hne => ?_
    dsimp only at hfault
    rcases houtcome with ⟨n, hok⟩ | ⟨told, f, hwrite⟩
    · rw [hok] at hfault
      cases hfault
    · rw [hwrite] at hfault
      exact (hne told f (Except.error.inj hfault).symm).elim

omit [LawfulStore σ] in
/-- Of batches that are written one after another, the first that fails, counted from zero. A
batch that takes longer than the deadline fails. -/
def RecordStore.firstFailure? (s : σ) : List (List Record) → Option (Nat × StoreFault)
  | [] => none
  | batch :: more =>
    match (RecordStore.write s batch).withinDeadline.1 with
    | .error fault => some (0, fault)
    | .ok () =>
      (firstFailure? (RecordStore.write s batch).withinDeadline.2 more).map
        fun (j, fault) => (j + 1, fault)

namespace World

variable {w : World σ} {batch : List Record} {more batches : List (List Record)}
  {j : Nat} {fault : StoreFault}

omit [LawfulStore σ] in
lemma run_commitAll_of_ok (h : (w.answer (.commit batch)).1 = .ok ()) :
    w.run (Writer.commitAll (batch :: more)) =
      let (report, w') := (w.answer (.commit batch)).2.run (Writer.commitAll more)
      (⟨s!"Updating {batch.length} entries..." :: " done.\n" :: report.progress, report.outcome⟩,
        w') := by
  rw [Writer.commitAll, run_bind]
  have hanswer : (w.run (access (.commit batch))).1 = .ok () := h
  rw [hanswer]
  exact run_bind _ _ _

omit [LawfulStore σ] in
lemma run_commitAll_of_error (h : (w.answer (.commit batch)).1 = .error fault) :
    w.run (Writer.commitAll (batch :: more)) =
      (⟨[s!"Updating {batch.length} entries...", " failed.\n"], .error fault⟩,
        (w.answer (.commit batch)).2) := by
  rw [Writer.commitAll, run_bind]
  have hanswer : (w.run (access (.commit batch))).1 = .error fault := h
  rw [hanswer]
  rfl

omit [LawfulStore σ] in
lemma firstFailure?_of_ok (h : (w.answer (.commit batch)).1 = .ok ()) :
    RecordStore.firstFailure? w.store (batch :: more) =
      (RecordStore.firstFailure? (w.answer (.commit batch)).2.store more).map
        fun (j, fault) => (j + 1, fault) := by
  have hwrite : (RecordStore.write w.store batch).withinDeadline.1 = .ok () := h
  rw [RecordStore.firstFailure?, hwrite]
  rfl

omit [LawfulStore σ] in
lemma firstFailure?_of_error (h : (w.answer (.commit batch)).1 = .error fault) :
    RecordStore.firstFailure? w.store (batch :: more) = some (0, fault) := by
  have hwrite : (RecordStore.write w.store batch).withinDeadline.1 = .error fault := h
  rw [RecordStore.firstFailure?, hwrite]

omit [LawfulStore σ] in
/-- Batches are all written unless one fails; the first that fails is what is reported. -/
lemma outcome_run_commitAll (w : World σ) (batches : List (List Record)) :
    (w.run (Writer.commitAll batches)).1.outcome =
      match RecordStore.firstFailure? w.store batches with
      | none => .ok ()
      | some (_, fault) => .error fault := by
  induction batches generalizing w with
  | nil => rfl
  | cons batch more ih =>
    cases h : (w.answer (.commit batch)).1 with
    | error fault => rw [run_commitAll_of_error h, firstFailure?_of_error h]
    | ok u =>
      rw [run_commitAll_of_ok h, firstFailure?_of_ok h]
      dsimp only
      rw [ih]
      cases RecordStore.firstFailure? (w.answer (.commit batch)).2.store more <;> rfl

lemma records_run_commitAll (h : RecordStore.firstFailure? w.store batches = some (j, fault)) :
    (w.run (Writer.commitAll batches)).2.records = w.records.putAll (batches.take j).flatten := by
  induction batches generalizing w j with
  | nil => cases h
  | cons batch more ih =>
    have hanswers := w.answers_answer (.commit batch)
    cases ho : (w.answer (.commit batch)).1 with
    | error f =>
      rw [firstFailure?_of_error ho] at h
      cases h
      rw [run_commitAll_of_error ho]
      rcases hanswers with ⟨hok, -⟩ | ⟨-, hsame⟩
      · rw [ho] at hok
        cases hok
      · exact hsame
    | ok u =>
      rw [firstFailure?_of_ok ho] at h
      obtain ⟨⟨i, f⟩, hi, heq⟩ := Option.map_eq_some_iff.mp h
      cases heq
      rw [run_commitAll_of_ok ho]
      rcases hanswers with ⟨-, hput⟩ | ⟨⟨f, hf⟩, -⟩
      · dsimp only
        rw [ih hi, hput, List.take_succ_cons, List.flatten_cons, Records.putAll_append]
      · rw [ho] at hf
        cases hf

omit [LawfulStore σ] in
lemma progress_run_commitAll_ne_nil (hne : batches ≠ []) :
    (w.run (Writer.commitAll batches)).1.progress ≠ [] := by
  obtain ⟨batch, more, rfl⟩ := List.exists_cons_of_ne_nil hne
  cases h : (w.answer (.commit batch)).1 with
  | error fault =>
    rw [run_commitAll_of_error h]
    exact List.cons_ne_nil _ _
  | ok u =>
    rw [run_commitAll_of_ok h]
    exact List.cons_ne_nil _ _

variable {reg : Registry} {p : Plan}

omit [LawfulStore σ] in
lemma run_update_of_plan (hb : reg.Batched) (hp : (w.run reg.planUpdate).1 = .ok p) :
    (w.run reg.update).1.outcome = (p.report (w.run (Writer.putAll p.updates)).1).outcome ∧
      (w.run reg.update).2.store = (w.run (Writer.putAll p.updates)).2.store := by
  rw [Registry.update, run_bind, hp, run_planUpdate]
  dsimp only
  rw [run_bind, Registry.applyPlan, hb, run_bind]
  exact ⟨rfl, rfl⟩

omit [LawfulStore σ] in
lemma outcome_run_update (hb : reg.Batched) (hp : (w.run reg.planUpdate).1 = .ok p) :
    (w.run reg.update).1.outcome =
      match RecordStore.firstFailure? w.store (Writer.batches p.updates) with
      | none => .ok p.totalUpdates
      | some (_, fault) => .error (.write true fault) := by
  rw [(run_update_of_plan hb hp).1]
  unfold Writer.putAll
  split
  · next hempty =>
    rw [List.isEmpty_iff.mp hempty]
    exact congrArg Except.ok p.length_updates
  · next hne =>
    have hbatches : Writer.batches p.updates ≠ [] := by
      intro hnil
      have hflat := Writer.flatten_batches p.updates
      rw [hnil, List.flatten_nil] at hflat
      exact hne (List.isEmpty_iff.mpr hflat.symm)
    have houtcome := outcome_run_commitAll w (Writer.batches p.updates)
    have hprogress : (w.run (Writer.commitAll (Writer.batches p.updates))).1.progress.isEmpty =
        false := by
      rw [List.isEmpty_eq_false_iff]
      exact progress_run_commitAll_ne_nil hbatches
    unfold Plan.report
    cases hf : RecordStore.firstFailure? w.store (Writer.batches p.updates) with
    | none =>
      rw [hf] at houtcome
      simp only [houtcome, Plan.length_updates]
    | some failure =>
      rw [hf] at houtcome
      rw [houtcome, hprogress]
      rfl

lemma records_run_update (hb : reg.Batched) (hp : (w.run reg.planUpdate).1 = .ok p)
    (hf : RecordStore.firstFailure? w.store (Writer.batches p.updates) = some (j, fault)) :
    (w.run reg.update).2.records =
      w.records.putAll (p.updates.take (Writer.batchSize * j)) := by
  have hstore := congrArg LawfulStore.records (run_update_of_plan hb hp).2
  refine hstore.trans ?_
  unfold Writer.putAll
  split
  · next hempty =>
    rw [List.isEmpty_iff.mp hempty] at hf
    cases hf
  · rw [← Writer.flatten_take_batches]
    exact records_run_commitAll hf

end World

/-- However the failures of the store come and go: a request that is not answered, or reports
that its record could not be saved, has changed no record, and nothing but that report is added
to what the scanner found. An update that does not get the list or one of the three lists of
records changes nothing and tells nothing. Over a store whose failures are its own, an update
that has a plan fails exactly when a batch does, and leaves the first 450 records for each batch
before the first that failed. -/
theorem failures_leave_records {reg : Registry} (hb : reg.Batched) (w : World σ) :
    (∀ (op : Operation) (w' : World σ) (reply : Reply), op ≠ .update →
      Relation.ReflTransGen World.Step (w, op.program reg) (w', .done reply) →
      (∀ fault, reply = .decided (.error fault) → w'.records = w.records) ∧
      ∀ issues e, reply.issues? = some issues → op.unsaved? = some e →
        e.code ∈ issues.errorCodes → w'.records = w.records ∧
          (issues = (op.verdict reg).pushError e ∨ e.code ∈ (op.verdict reg).errorCodes)) ∧
    (∀ (w' : World σ) (report : UpdateReport),
      Relation.ReflTransGen World.Step (w, reg.update) (w', .done report) →
      ((∃ fault, report.outcome = .error (.list fault)) ∨
        ∃ what fault, report.outcome = .error (.read what fault)) →
      w'.records = w.records ∧ report.text = "") ∧
    ∀ p, (w.run reg.planUpdate).1 = .ok p →
      (∀ told fault, (w.run reg.update).1.outcome = .error (.write told fault) →
        ∃ j, RecordStore.firstFailure? w.store (Writer.batches p.updates) = some (j, fault)) ∧
      ∀ j fault,
        RecordStore.firstFailure? w.store (Writer.batches p.updates) = some (j, fault) →
        (w.run reg.update).1.outcome = .error (.write true fault) ∧
          (w.run reg.update).2.records = w.records.putAll (p.updates.take (450 * j)) := by
  refine ⟨fun op w' reply hop hs => ?_, fun w' report hs hfault => ?_, fun p hp => ⟨?_, ?_⟩⟩
  · obtain ⟨-, hrest⟩ := (op.keeps_ends hb hop w.records).steps trivial hs
    have hends : op.Ends reg w.records w'.records reply := hrest _ rfl
    refine ⟨fun fault hreply => ?_, fun issues e hissues he hcode => ?_⟩
    · subst hreply
      exact hends.of_fault
    · exact hends.of_unsaved hissues he hcode
  · obtain ⟨-, hrest⟩ := (Registry.keeps_update_unplanned hb w.records).steps trivial hs
    rcases hfault with ⟨fault, houtcome⟩ | ⟨what, fault, houtcome⟩
    · exact hrest _ rfl _ houtcome (by simp)
    · exact hrest _ rfl _ houtcome (by simp)
  · intro told fault houtcome
    rw [World.outcome_run_update hb hp] at houtcome
    split at houtcome
    · cases houtcome
    · next j fault' hf =>
      cases houtcome
      exact ⟨j, hf⟩
  · intro j fault hf
    refine ⟨?_, World.records_run_update hb hp hf⟩
    rw [World.outcome_run_update hb hp, hf]

namespace Unfinished

def name (n : Nat) : String :=
  .ofList (List.replicate n 'a')

def list : PreloadList where
  entries := (List.range 451).map fun n => { name := name n, mode := .forceHttps }

def reg : Registry := .listing list

/-- A store that takes one more batch. -/
def start : World MemoryStore :=
  { store := { writesLeft := some 1 } }

lemma name_injective : Function.Injective name := by
  intro m n h
  have hlists := congrArg (fun s : String => s.toList.length) h
  simpa [name] using hlists

lemma length_updates : 450 < (Plan.ofRecords list ∅).updates.length := by
  have hsub : (List.range 451).map name ⊆ (Plan.ofRecords list ∅).updates.map Record.name := by
    intro d hd
    obtain ⟨n, hn, rfl⟩ := List.mem_map.mp hd
    have hlisted : (list.first? (name n)).isSome := by
      rw [PreloadList.first?, List.find?_isSome]
      exact ⟨_, List.mem_map_of_mem hn, by simp [Entry.isHsts]⟩
    obtain ⟨e, he⟩ := Option.isSome_iff_exists.mp hlisted
    rw [Plan.mem_names_updates_iff list Records.keyed_empty, Records.reconciled?_ne_iff, he,
      Records.get_of_none (by simp)]
    exact ⟨_, rfl⟩
  have hnodup : ((List.range 451).map name).Nodup := List.nodup_range.map name_injective
  have hle := (List.subperm_of_subset hnodup hsub).length_le
  rw [List.length_map, List.length_map, List.length_range] at hle
  exact hle

lemma firstFailure?_start : RecordStore.firstFailure? start.store
    (Writer.batches (Plan.ofRecords list ∅).updates) = some (1, MemoryStore.forcedFailure) := by
  generalize hu : (Plan.ofRecords list ∅).updates = updates
  have hlong : 450 < updates.length := hu ▸ length_updates
  have hsecond : (Writer.batches updates).drop 1 ≠ [] := by
    intro hnil
    have hrest := Writer.flatten_drop_batches updates 1
    rw [hnil, List.flatten_nil] at hrest
    have hle := List.drop_eq_nil_iff.mp hrest.symm
    exact Nat.not_le_of_lt hlong hle
  match Writer.batches updates, hsecond with
  | [], h | [_], h => exact (h rfl).elim
  | _ :: _ :: _, _ => rfl

theorem first_batch_remains :
    let full : World MemoryStore := { store := { writesLeft := some 0 } }
    let down : World MemoryStore := { store := { down := true } }
    (full.run ((Operation.submit "a.example").program reg)).1.issues? =
        some (.ofError Registry.saveFailed) ∧
      (full.run ((Operation.submit "a.example").program reg)).2.records = full.records ∧
      (down.run reg.update).1.outcome = .error (.read "preloaded" MemoryStore.forcedFailure) ∧
      (down.run reg.update).2.records = down.records ∧ (down.run reg.update).1.text = "" ∧
      (start.run reg.update).1.outcome = .error (.write true MemoryStore.forcedFailure) ∧
      (start.run reg.update).2.records =
        start.records.putAll ((Plan.ofRecords list ∅).updates.take 450) := by
  intro full down
  have hissues : (full.run ((Operation.submit "a.example").program reg)).1.issues? =
      some (.ofError Registry.saveFailed) := by decide
  have hread : (down.run reg.update).1.outcome =
      .error (.read "preloaded" MemoryStore.forcedFailure) := rfl
  have hplan : (start.run reg.planUpdate).1 = .ok (.ofRecords list ∅) := rfl
  have batched : reg.Batched := rfl
  obtain ⟨hsubmit, -, -⟩ := failures_leave_records batched full
  obtain ⟨-, hunplanned, -⟩ := failures_leave_records batched down
  obtain ⟨-, -, hbroken⟩ := failures_leave_records batched start
  have hsame := ((hsubmit (.submit "a.example") _ _ (by decide) (full.run_steps _)).2 _
    Registry.saveFailed hissues rfl (by decide)).1
  obtain ⟨hdown, htext⟩ := hunplanned _ _ (down.run_steps _) (.inr ⟨_, _, hread⟩)
  obtain ⟨hfault, hrecords⟩ := (hbroken _ hplan).2 1 _ firstFailure?_start
  exact ⟨hissues, hsame, hread, hdown, htext, hfault, hrecords⟩

end Unfinished

end HstsPreload
