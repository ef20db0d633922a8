import HstsPreload.Proofs.History

/-!
# No domain is falsely recorded as preloaded

The status of a stored record tells of an event in the history. A preloaded domain was listed by
the snapshot of the last update that succeeded, or of a later one that got partway; a pending one
was submitted and found eligible; and nothing is removed or rejected that was not there before.
-/

namespace HstsPreload

namespace Event

variable {e : Event} {name : String} {r : Record}

/-- An update whose snapshot enforces a name. -/
def Lists (e : Event) (name : String) : Prop :=
  e.operation = .update ∧ ∃ l, e.registry.list = .ok l ∧
    ∃ entry ∈ l.entries, entry.isHsts = true ∧ entry.name = name

/-- A submission of a name without errors that was accepted and moved the name to a record. -/
structure Submits (e : Event) (name : String) (r : Record) : Prop where
  operation : e.operation = .submit name
  eligible : (e.registry.scanner.preloadable name).hasErrors = false
  accepted : (e.before.get name).onSubmit true e.registry.now = .accept r
  stored : e.Stores name r

/-- A removal request for a name that was accepted and moved the name to a record. -/
structure Removes (e : Event) (name : String) (r : Record) : Prop where
  operation : e.operation = .remove name
  accepted : (e.before.get name).onRemove e.registry.now = .accept r
  stored : e.Stores name r

/-- An update that moved a name to a record because of what its snapshot lists. -/
structure Reconciles (e : Event) (l : PreloadList) (name : String) (r : Record) : Prop where
  operation : e.operation = .update
  list : e.registry.list = .ok l
  ended : e.Succeeded ∨ e.Partway
  transition : (e.before.get name).onReconcile (l.first? name) = .transition r

lemma lists_of_first? {l : PreloadList} {entry : Entry} (hop : e.operation = .update)
    (hl : e.registry.list = .ok l) (h : l.first? name = some entry) : e.Lists name :=
  ⟨hop, l, hl, entry, PreloadList.exists_of_first? h⟩

/-- What has to have happened for a record to be stored: an event of its name, of the kind that
its status tells. Nothing earns the status of an unknown domain or of an automated removal. -/
def Earns (e : Event) (name : String) (r : Record) : Prop :=
  match r.status with
  | .pending => e.Submits name r ∧ r.submissionDate = some e.registry.now
  | .preloaded => e.Lists name ∧ (e.Succeeded ∨ e.Partway)
  | .pendingRemoval => e.Removes name r ∧
    ∃ s, e.before[name]? = some s ∧ (s.status = .pending ∨ s.status = .preloaded)
  | .removed => ∃ s, e.before[name]? = some s ∧ s.status = .preloaded
  | .rejected => ∃ s, e.before[name]? = some s ∧ s.status = .pendingRemoval
  | .unknown | .pendingAutomatedRemoval => False

lemma Submits.earns (h : e.Submits name r) : e.Earns name r := by
  have hr := (Record.onSubmit_accept h.accepted).1
  subst hr
  exact ⟨h, rfl⟩

lemma Removes.earns (h : e.Removes name r) : e.Earns name r := by
  obtain ⟨rfl, hs, -⟩ := Record.onRemove_accept h.accepted
  refine ⟨h, _, Records.getElem?_of_status_get ?_, hs.symm⟩
  rcases hs with hs | hs <;> rw [hs] <;> decide

lemma Reconciles.earns {l : PreloadList} (h : e.Reconciles l name r) : e.Earns name r := by
  obtain ⟨entry, hfirst, -, rfl⟩ | ⟨-, hs, rfl⟩ | ⟨-, hs, rfl⟩ :=
    Record.onReconcile_cases h.transition
  · exact ⟨lists_of_first? h.operation h.list hfirst, h.ended⟩
  · exact ⟨_, Records.getElem?_of_status_get (by rw [hs]; decide), hs⟩
  · exact ⟨_, Records.getElem?_of_status_get (by rw [hs]; decide), hs⟩

lemma Explained.earns (h : e.Explained) (hk : e.before.Keyed)
    (hop : ∀ domain, e.operation ≠ .setPreloaded domain) (hs : e.Stores name r) :
    e.Earns name r := by
  rcases h.of_stores hk hs with ⟨hdomain, hd⟩ | ⟨l, hl, hended, hd⟩
  · cases ho : e.operation with
    | submit domain =>
      rw [ho] at hd hdomain
      cases hdomain
      exact Submits.earns ⟨ho, hd.1, hd.2, hs⟩
    | remove domain =>
      rw [ho] at hd hdomain
      cases hdomain
      exact Removes.earns ⟨ho, hd.2, hs⟩
    | setPreloaded domain => exact (hop domain ho).elim
    | update => rw [ho] at hd; exact hd.elim
  · exact Reconciles.earns ⟨hended.elim And.left And.left, hl, hended, hd⟩

end Event

lemma Records.exists_first?_of_preloaded {rs : Records} {l : PreloadList} {name : String}
    {r : Record} (hr : rs[name]? = some r) (hs : r.status = .preloaded)
    (h : rs.reconciled? l name = some r) : ∃ entry, l.first? name = some entry := by
  cases hf : l.first? name with
  | some entry => exact ⟨entry, rfl⟩
  | none =>
    have hd : (rs.get name).onReconcile (l.first? name) =
        .transition { r with status := .removed, message := "" } := by
      rw [get_of_some hr, hf]
      simp only [Record.onReconcile, hs]
    rw [reconciled?_of_transition hd] at h
    rw [← Option.some.inj h] at hs
    cases hs

namespace History

variable {σ : Type} [RecordStore σ] [LawfulStore σ] {events : List Event} {w : World σ}

lemma exists_last_succeeded {later : List Event} (h : ∃ e ∈ later, e.Succeeded) :
    ∃ since e before, later = since ++ e :: before ∧ e.Succeeded ∧
      ∀ e' ∈ since, ¬e'.Succeeded := by
  induction later with
  | nil => simp at h
  | cons e later ih =>
    by_cases he : e.Succeeded
    · exact ⟨[], e, later, rfl, he, by simp⟩
    · rw [List.exists_mem_cons_iff] at h
      obtain ⟨since, e', before, rfl, hsucceeded, hsince⟩ := ih (h.resolve_left he)
      exact ⟨e :: since, e', before, rfl, hsucceeded, List.forall_mem_cons.mpr ⟨he, hsince⟩⟩

lemma exists_earns (h : History events w) {name : String} {r : Record}
    (hr : w.records[name]? = some r) :
    ∃ later e earlier, events = later ++ e :: earlier ∧ e.Earns name r ∧
      ∀ e' ∈ later, e'.Leaves name r := by
  obtain ⟨later, e, earlier, rfl, hstores, hlater⟩ := h.origin hr
  obtain ⟨hexplained, hk, hop⟩ := h.explained e (by simp)
  exact ⟨later, e, earlier, rfl, hexplained.earns hk hop hstores, hlater⟩

lemma lists_of_succeeded (h : History events w) {e : Event} (he : e ∈ events)
    (hsucceeded : e.Succeeded) {name : String} {r : Record} (hleaves : e.Leaves name r)
    (hs : r.status = .preloaded) : e.Lists name := by
  obtain ⟨hexplained, hk, -⟩ := h.explained e he
  obtain ⟨l, hl, hafter⟩ := hexplained.success hsucceeded
  obtain ⟨hbefore, hr⟩ := hleaves
  rw [hafter, Records.getElem?_settled l hk] at hr
  obtain ⟨entry, hfirst⟩ := Records.exists_first?_of_preloaded hbefore hs hr
  exact Event.lists_of_first? hsucceeded.1 hl hfirst

lemma exists_lists_of_preloaded (h : History events w) {name : String} {r : Record}
    (hr : w.records[name]? = some r) (hs : r.status = .preloaded) :
    ∃ later e earlier, events = later ++ e :: earlier ∧ e.Lists name ∧
      (e.Succeeded ∨ e.Partway) ∧ ∀ e' ∈ later, ¬e'.Succeeded := by
  obtain ⟨later, e, earlier, rfl, hearns, hlater⟩ := h.exists_earns hr
  by_cases hany : ∃ e' ∈ later, e'.Succeeded
  · -- the record may be older than the last success, which then has confirmed it
    obtain ⟨since, e', before, rfl, hsucceeded, hsince⟩ := exists_last_succeeded hany
    refine ⟨since, e', before ++ e :: earlier, by simp, ?_, .inl hsucceeded, hsince⟩
    exact h.lists_of_succeeded (by simp) hsucceeded (hlater e' (by simp)) hs
  · rw [Event.Earns, hs] at hearns
    simp only [not_exists, not_and] at hany
    exact ⟨later, e, earlier, rfl, hearns.1, hearns.2, hany⟩

/-- Whatever submissions, removal requests and updates follow each other from an empty store on,
and wherever they fail or are cut off: each stored record has been earned by an event of its
name, after which it stayed as it was. A preloaded name was listed by the last update that
succeeded, or by one since then, or without any success by any, that got partway. No record is
deleted. -/
theorem records_are_earned (h : History events w) :
    (∀ (name : String) (r : Record), w.records[name]? = some r →
      (∃ later e earlier, events = later ++ e :: earlier ∧ e.Earns name r ∧
        ∀ e' ∈ later, e'.Leaves name r) ∧
      (r.status = .preloaded → ∃ later e earlier, events = later ++ e :: earlier ∧
        e.Lists name ∧ (e.Succeeded ∨ e.Partway) ∧ ∀ e' ∈ later, ¬e'.Succeeded)) ∧
    ∀ e ∈ events, ∀ name : String, e.before[name]?.isSome ∨ e.after[name]?.isSome →
      w.records[name]?.isSome :=
  ⟨fun _ _ hr => ⟨h.exists_earns hr, h.exists_lists_of_preloaded hr⟩,
    fun _ he _ hn => h.isSome_of_mem he hn⟩

namespace Admission

def reg : Registry :=
  .listing ⟨[⟨"listed.example", .bulk1Year, .forceHttps, true⟩]⟩

def submitted : Reply × World MemoryStore :=
  (World.holding []).run ((Operation.submit "new.example").program reg)

def updated : Reply × World MemoryStore :=
  submitted.2.run (Operation.update.program reg)

def submission : Event :=
  ⟨reg, .submit "new.example", ∅, submitted.2.records, some submitted.1⟩

def update : Event :=
  ⟨reg, .update, submitted.2.records, updated.2.records, some updated.1⟩

lemma history : History [update, submission] updated.2 :=
  .next reg .update
    (.next reg (.submit "new.example") (.start rfl) rfl (by simp) (World.run_steps _ _)) rfl
    (by simp) (World.run_steps _ _)

end Admission

open Admission in
theorem pending_record_earned_by_submission :
    History [update, submission] updated.2 ∧
      (∃ r, updated.2.records["new.example"]? = some r ∧ r.status = .pending ∧
        submission.Earns "new.example" r) ∧
      ∃ r, updated.2.records["listed.example"]? = some r ∧ r.status = .preloaded ∧
        update.Lists "listed.example" ∧ (update.Succeeded ∨ update.Partway) := by
  obtain ⟨hearned, -⟩ := records_are_earned history
  have hmem : ∀ {later e earlier}, [update, submission] = later ++ e :: earlier →
      e = update ∨ e = submission := by
    intro later e earlier hsplit
    have hmem : e ∈ [update, submission] := hsplit ▸ List.mem_append_right later List.mem_cons_self
    simpa using hmem
  refine ⟨history, ⟨⟨"new.example", .pending, "", some ⟨0, 0⟩, true, .bulk1Year⟩, rfl, rfl, ?_⟩,
    ⟨"listed.example", .preloaded, "", none, true, .bulk1Year⟩, rfl, rfl, ?_⟩
  · obtain ⟨later, e, earlier, hsplit, hearns, -⟩ := (hearned "new.example" _ rfl).1
    rcases hmem hsplit with rfl | rfl
    · exact absurd hearns.1.operation (by decide)
    · exact hearns
  · obtain ⟨later, e, earlier, hsplit, hlists, hended, -⟩ :=
      (hearned "listed.example" _ rfl).2 rfl
    rcases hmem hsplit with rfl | rfl
    · exact ⟨hlists, hended⟩
    · exact absurd hlists.1 (by decide)

end History

end HstsPreload
