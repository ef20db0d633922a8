import HstsPreload.Proofs.Ancestry
import HstsPreload.Proofs.Independence
import HstsPreload.Proofs.StandingHeader
import HstsPreload.Proofs.Transparency

/-!
# What the dry runs foretell

Whether a domain may leave is asked of the view that the cache gives of it, and whether it may join
of its site alone. Over a store that is written only through the registry both answers hold for the
requests that write, which read the record from the store.
-/

namespace HstsPreload

open Program

namespace Issues

@[simp] lemma hasErrors_ofError (i : Issue) : (ofError i).hasErrors = true := rfl

@[simp] lemma hasErrors_pushWarning (is : Issues) (i : Issue) :
    (is.pushWarning i).hasErrors = is.hasErrors := rfl

end Issues

namespace Record

lemma onRemove_accept_iff {r : Record} {now : Instant} :
    (∃ next, r.onRemove now = .accept next) ↔
      (r.status = .preloaded ∨ r.status = .pending) ∧ r.isProtected = false := by
  constructor
  · rintro ⟨next, h⟩
    exact (onRemove_accept h).2
  · rintro ⟨hstatus, hopen⟩
    refine ⟨r.leaving now, ?_⟩
    unfold onRemove
    rw [hopen]
    rcases hstatus with h | h <;> rw [h] <;> rfl

lemma onSubmit_accept_iff {r : Record} {eligible : Bool} {now : Instant} :
    (∃ next, r.onSubmit eligible now = .accept next) ↔ eligible = true ∧
      (r.status = .unknown ∨ r.status = .removed ∨ r.status = .rejected) := by
  constructor
  · rintro ⟨next, h⟩
    exact (onSubmit_accept h).2
  · rintro ⟨rfl, hstatus⟩
    refine ⟨r.submitted now, ?_⟩
    unfold onSubmit
    rcases hstatus with h | h | h <;> rw [h] <;> rfl

end Record

namespace Records

lemma getElem?_putAny_ne_iff {rs : Records} {domain : String} {stored : Option Record}
    (h : ∀ next, stored = some next →
      next.name = domain ∧ next.status ≠ (rs.get domain).status) :
    (rs.putAny stored)[domain]? ≠ rs[domain]? ↔ ∃ next, stored = some next := by
  cases stored with
  | none => exact iff_of_false (fun hne => hne rfl) (by simp)
  | some next =>
    obtain ⟨hname, hstatus⟩ := h next rfl
    refine iff_of_true (fun hsame => hstatus ?_) ⟨next, rfl⟩
    have hput : (rs.put next)[domain]? = some next := by rw [getElem?_put, if_pos hname]
    rw [get_of_some (hsame.symm.trans hput)]

lemma getElem?_putAny_of_ne {rs : Records} {stored : Option Record} {name : String}
    (h : ∀ next, stored = some next → next.name ≠ name) :
    (rs.putAny stored)[name]? = rs[name]? := by
  cases stored with
  | none => rfl
  | some next => exact (getElem?_put rs next name).trans (if_neg (h next rfl))

end Records

lemma Program.Settled.store_run {α σ : Type} [RecordStore σ] {post : α → Prop} {p : Program α}
    (h : p.Settled post) (w : World σ) : (w.run p).2.store = w.store := by
  induction p generalizing w with
  | done a => rfl
  | step a next ih =>
    have hkept : (w.answer a).2.store = w.store := by
      cases a with
      | commit batch => cases h.1
      | _ => rfl
    exact (ih _ (h.2 _) _).trans hkept

namespace Registry

/-- What a dry run of a removal says when the domain has the view `view`. -/
def judged (reg : Registry) (domain : String) (view : StatusView) : Issues :=
  match view.preloadedDomain.filter fun d => view.record.status = .preloaded && d != domain with
  | some ancestor => .ofError (coveredBy domain ancestor)
  | none =>
    if view.record.isProtected then (reg.scanner.removable domain).pushError removalProtected
    else reg.scanner.removable domain

lemma removable_eq (reg : Registry) (domain : String) :
    reg.removable domain = do return (← status domain).map (reg.judged domain) := by
  unfold removable
  congr 1
  funext answer
  cases answer with
  | error fault => rfl
  | ok view =>
    dsimp only [judged, Except.map]
    generalize view.preloadedDomain.filter _ = covering
    cases covering with
    | some ancestor => rfl
    | none => by_cases hp : view.record.isProtected <;> simp [hp]

section Verdicts

variable {reg : Registry} {own : Record} {found : Option String}

lemma isProtected_told (own : Record) (found : Option String) :
    (told own found).record.isProtected = own.isProtected := by
  unfold told
  cases found <;> split <;> (try split) <;> rfl

lemma clean_of_judged (h : (reg.judged own.name (told own found)).hasErrors = false) :
    (reg.scanner.removable own.name).hasErrors = false ∧ own.isProtected = false := by
  unfold judged at h
  split at h
  · cases h
  · rw [isProtected_told] at h
    split at h
    · rw [Issues.hasErrors_pushError] at h
      cases h
    · next hopen => exact ⟨h, eq_false_of_ne_true hopen⟩

/-- No other name covers a domain that has a status of its own. -/
lemma judged_of_known (h : own.status ≠ .unknown) :
    reg.judged own.name (told own found) =
      if own.isProtected then (reg.scanner.removable own.name).pushError removalProtected
      else reg.scanner.removable own.name := by
  unfold judged told
  rw [if_neg h]
  by_cases hpreloaded : own.status = .preloaded
  · rw [if_pos hpreloaded]
    have hself : (some own.name).filter (fun d => own.status = .preloaded && d != own.name) =
        none := by simp [Option.filter]
    dsimp only
    rw [hself]
  · rw [if_neg hpreloaded]
    rfl

lemma exists_stored_removal {domain : String} :
    (∃ next, (reg.removal domain own).stored = some next) ↔
      (reg.scanner.removable domain).hasErrors = false ∧
        (own.status = .preloaded ∨ own.status = .pending) ∧ own.isProtected = false := by
  rw [← @Record.onRemove_accept_iff own reg.now]
  unfold removal
  cases hclean : (reg.scanner.removable domain).hasErrors with
  | true => simp [hclean]
  | false => cases own.onRemove reg.now <;> simp [hclean]

lemma status_stored_removal {domain : String} {next : Record}
    (h : (reg.removal domain own).stored = some next) : next.status ≠ own.status := by
  unfold removal at h
  dsimp only at h
  split at h
  · cases h
  · split at h
    · next haccept =>
      cases h
      obtain ⟨rfl, hstatus, -⟩ := Record.onRemove_accept haccept
      rcases hstatus with hs | hs <;> rw [hs] <;> exact Status.noConfusion
    · cases h
    · cases h

lemma errors_removal (reg : Registry) (own : Record) (domain : String) :
    ∃ issues, (reg.removal domain own).answer = .ok issues ∧
      ((reg.scanner.removable domain).hasErrors = false → own.isProtected = false →
        issues.hasErrors = false) := by
  unfold removal
  dsimp only
  split
  · exact ⟨_, rfl, fun hclean _ => hclean⟩
  · cases hd : own.onRemove reg.now with
    | accept next => exact ⟨_, rfl, fun hclean _ => hclean⟩
    | unneeded reason => exact ⟨_, rfl, fun hclean _ => hclean⟩
    | refuse reason =>
      refine ⟨_, rfl, fun _ hopen => ?_⟩
      rw [(Record.onRemove_refuse hd).2.2] at hopen
      cases hopen

lemma exists_stored_removal_iff_judged (reg : Registry) (own : Record)
    (found : Option String) : (∃ next, (reg.removal own.name own).stored = some next) ↔
      (reg.judged own.name (told own found)).hasErrors = false ∧
        (own.status = .preloaded ∨ own.status = .pending) := by
  rw [exists_stored_removal]
  constructor
  · rintro ⟨hclean, hlisted, hopen⟩
    have hknown : own.status ≠ .unknown := by
      rcases hlisted with h | h <;> rw [h] <;> exact Status.noConfusion
    refine ⟨?_, hlisted⟩
    rw [judged_of_known hknown, hopen]
    exact hclean
  · rintro ⟨hjudged, hlisted⟩
    obtain ⟨hclean, hopen⟩ := clean_of_judged hjudged
    exact ⟨hclean, hlisted, hopen⟩

lemma exists_stored_submission {domain : String} :
    (∃ next, (reg.submission domain own).stored = some next) ↔
      (reg.scanner.preloadable domain).hasErrors = false ∧
        (own.status = .unknown ∨ own.status = .removed ∨ own.status = .rejected) := by
  have h := @Record.onSubmit_accept_iff own (!(reg.scanner.preloadable domain).hasErrors) reg.now
  rw [Bool.not_eq_true'] at h
  rw [← h]
  unfold submission
  dsimp only
  cases own.onSubmit _ reg.now <;> simp

lemma status_stored_submission {domain : String} {next : Record}
    (h : (reg.submission domain own).stored = some next) : next.status ≠ own.status := by
  unfold submission at h
  dsimp only at h
  split at h
  · next haccept =>
    cases h
    obtain ⟨rfl, -, hstatus⟩ := Record.onSubmit_accept haccept
    rcases hstatus with hs | hs | hs <;> rw [hs] <;> exact Status.noConfusion
  · cases h
  · cases h

lemma errors_submission (reg : Registry) (own : Record) (domain : String) :
    ∃ issues, (reg.submission domain own).answer = .ok issues ∧
      issues.errors = (reg.scanner.preloadable domain).errors := by
  unfold submission
  dsimp only
  cases own.onSubmit _ reg.now <;> exact ⟨_, rfl, rfl⟩

end Verdicts

end Registry

section Reached

variable {σ : Type} [RecordStore σ] [LawfulStore σ]

/-- Calls leave a store whose reads succeed and a cache that agrees with it. -/
lemma Session.stays {visits : List (Visit σ)} (hb : ∀ v ∈ visits, v.registry.Batched)
    (hv : ∀ v ∈ visits, v.Benign) {w w' : World σ} {answers : List CallResult}
    (h : Session w visits answers w') (hs : Dependable w.store) (hc : w.Coherent) :
    Dependable w'.store ∧ w'.Coherent := by
  induction h with
  | done w => exact ⟨hs, hc⟩
  | @visit w w₁ w' v visits answer answers pause hrun hrest ih =>
    obtain ⟨hbv, hb⟩ := List.forall_mem_cons.mp hb
    obtain ⟨hbenign, hv⟩ := List.forall_mem_cons.mp hv
    have hfound := (hbenign w.store hs).1
    obtain ⟨a, s', hs', hyields⟩ := v.call.determined hbv hfound
    obtain ⟨-, rfl, hc₁⟩ := World.paced_of_yields (w := v.found w pause) hyields hfound
      (hbenign.coherent_found hs hc pause) hrun
    exact ih hb hv hs' hc₁

namespace Registry

variable {reg : Registry} {w : World σ} {domain : String}

lemma run_removable (hs : Dependable w.store) (hc : w.Coherent) (reg : Registry)
    (domain : String) : ∃ found, (w.run (reg.removable domain)).1 =
      .ok (reg.judged domain (told (w.records.get domain) found)) := by
  have hreadable : w.Readable domain := .inr ⟨_, hs.find_eq domain⟩
  obtain ⟨found, -, hview⟩ := (hc.holds hs.keyed).run_status hreadable
  refine ⟨found, ?_⟩
  rw [removable_eq, World.run_bind, hview]
  rfl

/-- Over a store that works and was written only through the registry, so that its reads succeed and
the cache agrees with it: a removal request stores a new record for its domain just when the dry
run before it gives no errors and the domain is preloaded or pending, and gives no errors itself
when the dry run gives none. A submission stores a new record just when the domain is eligible and
neither on its way onto the list nor on it nor on its way off, and its errors are those that the
dry run gives. Neither stores anything under another name. -/
theorem dry_runs_foretell {visits : List (Visit σ)} (hb : ∀ v ∈ visits, v.registry.Batched)
    (hv : ∀ v ∈ visits, v.Benign) {s : σ} (hs : Dependable s) {ttl : Nat}
    {answers : List CallResult} {w : World σ} (h : Session (.opened s ttl) visits answers w)
    (hworks : LawfulStore.Works w.store) (reg : Registry) (hreg : reg.Batched)
    (domain : String) :
    let own := w.records.get domain
    let dry := w.run (reg.removable domain)
    dry.2.store = w.store ∧ ∀ w' : World σ, w'.store = w.store →
      let removed := w'.run (reg.remove domain)
      let submitted := w'.run (reg.submit domain)
      (∃ found issues, dry.1 = .ok found ∧ removed.1 = .ok issues ∧
        (removed.2.records[domain]? ≠ w.records[domain]? ↔
          found.hasErrors = false ∧ (own.status = .preloaded ∨ own.status = .pending)) ∧
        (found.hasErrors = false → issues.hasErrors = false)) ∧
      (∃ issues, submitted.1 = .ok issues ∧ issues.errors = (reg.preloadable domain).errors ∧
        (submitted.2.records[domain]? ≠ w.records[domain]? ↔
          (reg.preloadable domain).hasErrors = false ∧
            (own.status = .unknown ∨ own.status = .removed ∨ own.status = .rejected))) ∧
      ∀ name, name ≠ domain → removed.2.records[name]? = w.records[name]? ∧
        submitted.2.records[name]? = w.records[name]? := by
  intro own dry
  obtain ⟨hs', hc⟩ := h.stays hb hv hs (World.coherent_opened s ttl)
  refine ⟨(settled_removable reg domain).store_run w, fun w' hw' => ?_⟩
  have hrecords : w'.records = w.records := congrArg LawfulStore.records hw'
  have hname : own.name = domain := hs'.keyed.name_get domain
  have hremove := local_remove (σ := σ) hreg domain
  have hsubmit := local_submit (σ := σ) hreg domain
  obtain ⟨hremoved, hstored, -⟩ := hremove.runs w' (hw' ▸ hworks)
  obtain ⟨hsubmitted, hjoined, -⟩ := hsubmit.runs w' (hw' ▸ hworks)
  rw [hrecords] at hremoved hstored hsubmitted hjoined
  refine ⟨?_, ?_, fun name hne => ⟨?_, ?_⟩⟩
  · obtain ⟨found, hdry⟩ := run_removable hs' hc reg domain
    obtain ⟨issues, hissues, hclean⟩ := errors_removal reg own domain
    have hforetold := exists_stored_removal_iff_judged reg own found
    have hjudged := @clean_of_judged reg own found
    rw [hname] at hforetold hjudged
    refine ⟨_, issues, hdry, hremoved.trans hissues, ?_, fun h => ?_⟩
    · rw [hstored, Records.getElem?_putAny_ne_iff]
      · exact hforetold
      · exact fun next hnext => ⟨hremove.stays own next hname hnext, status_stored_removal hnext⟩
    · exact hclean (hjudged h).1 (hjudged h).2
  · obtain ⟨issues, hissues, herrors⟩ := errors_submission reg own domain
    refine ⟨issues, hsubmitted.trans hissues, herrors, ?_⟩
    rw [hjoined, Records.getElem?_putAny_ne_iff]
    · exact exists_stored_submission
    · exact fun next hnext => ⟨hsubmit.stays own next hname hnext, status_stored_submission hnext⟩
  · rw [hstored]
    apply Records.getElem?_putAny_of_ne
    exact fun next hnext => hremove.stays own next hname hnext ▸ hne.symm
  · rw [hjoined]
    apply Records.getElem?_putAny_of_ne
    exact fun next hnext => hsubmit.stays own next hname hnext ▸ hne.symm

end Registry

end Reached

namespace Registry

/-- A domain that is made preloaded in a new store. -/
def preloadedOnce : List (Visit MemoryStore) :=
  [{ registry := .listing ⟨[]⟩, call := .operate (.setPreloaded "a.example") }]

theorem removal_foretold :
    let reg := listing ⟨[]⟩
    let w := (Session.swift (.opened ({} : MemoryStore) 1000) preloadedOnce).2
    (w.run (reg.remove "a.example")).2.records["a.example"]? ≠ w.records["a.example"]? ∧
      (w.run (reg.submit "a.example")).2.records["a.example"]? = w.records["a.example"]? ∧
      (w.run (reg.removable "a.example")).1 = .ok {} := by
  intro reg w
  have hb : ∀ v ∈ preloadedOnce, v.registry.Batched := List.forall_mem_singleton.mpr rfl
  have hv : ∀ v ∈ preloadedOnce, v.Benign :=
    List.forall_mem_singleton.mpr fun s hs => ⟨hs, rfl⟩
  have hs : Dependable ({} : MemoryStore) :=
    MemoryStore.dependable_iff.mpr ⟨rfl, Records.keyed_empty⟩
  have hworks : LawfulStore.Works w.store := ⟨rfl, rfl, fun _ h => by cases h⟩
  have hdry : (w.run (reg.removable "a.example")).1 = .ok {} := rfl
  obtain ⟨-, hforetold⟩ := dry_runs_foretell hb hv hs (Session.session_swift _ _) hworks reg rfl
    "a.example"
  obtain ⟨⟨found, issues, hfound, -, hremoved, -⟩, ⟨joined, -, -, hsubmitted⟩, -⟩ :=
    hforetold w rfl
  rw [hdry] at hfound
  cases hfound
  refine ⟨hremoved.mpr ⟨rfl, .inl rfl⟩, ?_, hdry⟩
  by_contra hne
  obtain ⟨-, hstatus⟩ := hsubmitted.mp hne
  have hpreloaded : (w.records.get "a.example").status = .preloaded := rfl
  rw [hpreloaded] at hstatus
  rcases hstatus with h | h | h <;> cases h

end Registry

end HstsPreload
