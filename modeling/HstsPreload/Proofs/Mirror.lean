import HstsPreload.Proofs.Coherence
import HstsPreload.Proofs.Provenance

/-!
# Preloaded records mirror the snapshot that let them in

An update leaves the records of listed names alone, also where the list has other attributes for
them by now. So a preloaded record carries the attributes of the entry for which it became
preloaded, and what is told of the domain goes by these.
-/

namespace HstsPreload

open Program

namespace Event

/-- An update that made a name preloaded, for the first enforced entry of it in the snapshot. -/
structure Admits (e : Event) (name : String) (entry : Entry) : Prop where
  operation : e.operation = .update
  ended : e.Succeeded ∨ e.Partway
  listed : ∃ l, e.registry.list = .ok l ∧ l.first? name = some entry
  before : ¬(e.before.get name).status.Tracked
  after : e.after[name]? = some entry.record

lemma Explained.admits {e : Event} (h : e.Explained) (hk : e.before.Keyed)
    (hop : ∀ domain, e.operation ≠ .setPreloaded domain) {name : String} {r : Record}
    (hstores : e.Stores name r) (hs : r.status = .preloaded) :
    ∃ entry, e.Admits name entry ∧ r = entry.record := by
  rcases h.of_stores hk hstores with ⟨-, hd⟩ | ⟨l, hl, hended, hd⟩
  · cases ho : e.operation with
    | submit domain =>
      rw [ho] at hd
      rw [(Record.onSubmit_accept hd.2).1] at hs
      cases hs
    | remove domain =>
      rw [ho] at hd
      rw [(Record.onRemove_accept hd.2).1] at hs
      cases hs
    | setPreloaded domain => exact (hop domain ho).elim
    | update => rw [ho] at hd; exact hd.elim
  · obtain ⟨entry, hfirst, ht, rfl⟩ | ⟨-, -, rfl⟩ | ⟨-, -, rfl⟩ := Record.onReconcile_cases hd
    · have hname : (e.before.get name).name = (Record.unseen entry.name).name :=
        (hk.name_get name).trans (PreloadList.name_of_first? hfirst).symm
      have hrecord : (e.before.get name).listed entry = entry.record :=
        Record.listed_congr entry hname
      refine ⟨entry, ⟨hended.elim And.left And.left, hended, ⟨l, hl, hfirst⟩, ht, ?_⟩, hrecord⟩
      rw [← hrecord]
      exact hstores.2
    · cases hs
    · cases hs

end Event

/-- A removal request that the scanner lets pass is refused as protected exactly when the record
of the domain, as it stands, is protected and the domain is listed or about to be. -/
lemma Registry.keeps_remove_refusal {reg : Registry} (hb : reg.Batched) {domain : String}
    (hclean : (reg.scanner.removable domain).hasErrors = false) (rs : Records) :
    (reg.remove domain).Keeps (.alone fun _ => True) (fun _ answer =>
      ∀ issues, answer = .ok issues → (Record.protectedFromRemoval ∈ issues.errors ↔
        ((rs.get domain).status = .preloaded ∨ (rs.get domain).status = .pending) ∧
          (rs.get domain).isProtected = true)) rs := by
  have herrors : (reg.scanner.removable domain).errors = [] := by
    simpa [Issues.hasErrors] using hclean
  have hother : Record.protectedFromRemoval ≠ removalFailed := by decide
  unfold remove
  dsimp only
  rw [hclean]
  refine Keeps.load (fun rs' hr => ?_) fun rs' fault hr => Keeps.pure fun _ _ issues h => by cases h
  subst hr
  dsimp only
  split
  · next next haccept =>
    obtain ⟨-, -, hfree⟩ := Record.onRemove_accept haccept
    have hpersist : (reg.persist next).Keeps (.alone fun _ => True) (fun _ _ => True) rs :=
      keeps_persist hb next (fun _ _ => ⟨fun _ => trivial, fun _ _ => trivial⟩) fun _ _ _ => trivial
    refine hpersist.bind fun rs' outcome _ => ?_
    cases outcome with
    | ok _ =>
      refine Keeps.pure fun _ _ issues h => ?_
      cases h
      simp [herrors, hfree]
    | error fault =>
      refine Keeps.pure fun _ _ issues h => ?_
      cases h
      simp [Issues.pushError, herrors, hfree, hother]
  · next reason hunneeded =>
    refine Keeps.pure fun _ _ issues h => ?_
    cases h
    have hstatus := Record.onRemove_unneeded hunneeded
    simp [Issues.pushWarning, herrors, hstatus]
  · next reason hrefuse =>
    obtain ⟨rfl, hstatus, hprotected⟩ := Record.onRemove_refuse hrefuse
    refine Keeps.pure fun _ _ issues h => ?_
    cases h
    simp [Issues.pushError, herrors, hstatus, hprotected]

namespace History

variable {σ : Type} [RecordStore σ] [LawfulStore σ] {events : List Event} {w : World σ}

/-- A name was made preloaded for an entry, and what was stored then has been left as it was. -/
def Admitted (events : List Event) (name : String) (entry : Entry) : Prop :=
  ∃ later e earlier, events = later ++ e :: earlier ∧ e.Admits name entry ∧
    ∀ e' ∈ later, e'.Leaves name entry.record

lemma exists_admitted (h : History events w) {name : String} {r : Record}
    (hr : w.records[name]? = some r) (hs : r.status = .preloaded) :
    ∃ entry, Admitted events name entry ∧ r = entry.record := by
  obtain ⟨later, e, earlier, rfl, hstores, hlater⟩ := h.origin hr
  obtain ⟨hexplained, hk, hop⟩ := h.explained e (by simp)
  obtain ⟨entry, hadmits, rfl⟩ := hexplained.admits hk hop hstores hs
  exact ⟨entry, ⟨later, e, earlier, rfl, hadmits, hlater⟩, rfl⟩

lemma getElem?_of_admitted (h : History events w) {name : String} {entry : Entry}
    (ha : Admitted events name entry) : w.records[name]? = some entry.record := by
  obtain ⟨later, e, earlier, rfl, hadmits, hlater⟩ := ha
  cases later with
  | nil => cases h; exact hadmits.after
  | cons e' later =>
    cases h
    exact (hlater _ List.mem_cons_self).2

lemma policy_of_pending (h : History events w) {name : String} {r : Record}
    (hr : w.records[name]? = some r) (hs : r.status = .pending) : r.policy = .bulk1Year := by
  obtain ⟨later, e, earlier, -, hearns, -⟩ := h.exists_earns hr
  rw [Event.Earns, hs] at hearns
  rw [(Record.onSubmit_accept hearns.1.accepted).1]
  rfl

lemma protected_iff_admitted (h : History events w) (domain : String) :
    ((w.records.get domain).status = .preloaded ∨ (w.records.get domain).status = .pending) ∧
        (w.records.get domain).isProtected = true ↔
      ∃ entry, Admitted events domain entry ∧ entry.policy.isProtected = true := by
  constructor
  · rintro ⟨hs, hprotected⟩
    have hr : w.records[domain]? = some (w.records.get domain) :=
      Records.getElem?_of_status_get (by rcases hs with hs | hs <;> rw [hs] <;> decide)
    rcases hs with hs | hs
    · obtain ⟨entry, hadmitted, heq⟩ := h.exists_admitted hr hs
      rw [heq] at hprotected
      exact ⟨entry, hadmitted, hprotected⟩
    · have hpolicy := h.policy_of_pending hr hs
      rw [Record.isProtected, hpolicy] at hprotected
      cases hprotected
  · rintro ⟨entry, hadmitted, hprotected⟩
    rw [Records.get_of_some (h.getElem?_of_admitted hadmitted)]
    exact ⟨.inl rfl, hprotected⟩

lemma cold_of_succeeded {e : Event} (h : History (e :: events) w) (hs : e.Succeeded) :
    w.cache.Cold := by
  cases h with
  | @next events w₀ w p reg op _ hb hop hsteps =>
    obtain ⟨hupdate, r, n, hreply, hn⟩ := hs
    change op = .update at hupdate
    subst hupdate
    cases p with
    | step a next => cases hreply
    | done reply =>
      cases hreply
      have hempties : (Operation.update.program reg).Empties fun reply =>
          ∀ r, reply = .updated r → ∃ fault, r.outcome = .error fault := by
        refine Empties.map (Empties.of_bind fun answer => ?_)
        cases answer with
        | error fault => exact fun r hr => ⟨fault, by cases hr; rfl⟩
        | ok plan =>
          exact ((reg.empties_applyPlan plan).mono fun _ h => h.elim).map
      refine World.cold_of_steps hsteps hempties fun hexcused => ?_
      obtain ⟨fault, hfault⟩ := hexcused r rfl
      rw [hn] at hfault
      cases hfault

/-- After an update that has succeeded, whatever submissions, removal requests and updates came
before it from an empty store on, and wherever they failed: every preloaded record has an
enforced entry in the snapshot, and carries the attributes of the first enforced entry of its
name in the snapshot of the update that made it preloaded, which may be an earlier one. A domain
is told to be covered by another only if the entry for which that one was admitted includes its
subdomains. A removal request that the scanner lets pass is refused as protected exactly when
the entry for which the domain was admitted has a protected policy. -/
theorem preloaded_as_admitted {e : Event} (h : History (e :: events) w) (hs : e.Succeeded) :
    (∀ (name : String) (r : Record), w.records[name]? = some r → r.status = .preloaded →
      e.Lists name ∧ ∃ entry, Admitted (e :: events) name entry ∧
        r.includeSubDomains = entry.includeSubdomains ∧ r.policy = entry.policy) ∧
    (∀ (domain ancestor : String) (w' : World σ) (view : StatusView),
      Relation.ReflTransGen World.Step (w, Registry.status domain) (w', .done (.ok view)) →
      view.preloadedDomain = some ancestor → ancestor ≠ domain →
        ∃ entry, Admitted (e :: events) ancestor entry ∧ entry.includeSubdomains = true) ∧
    ∀ (reg : Registry) (domain : String) (w' : World σ) (issues : Issues), reg.Batched →
      (reg.scanner.removable domain).hasErrors = false →
      Relation.ReflTransGen World.Step (w, reg.remove domain) (w', .done (.ok issues)) →
        (Record.protectedFromRemoval ∈ issues.errors ↔
          ∃ entry, Admitted (e :: events) domain entry ∧ entry.policy.isProtected = true) := by
  refine ⟨fun name r hr hpreloaded => ?_, fun domain ancestor w' view hrun hcovered hne => ?_,
    fun reg domain w' issues hb hclean hrun => ?_⟩
  · obtain ⟨entry, hadmitted, rfl⟩ := h.exists_admitted hr hpreloaded
    refine ⟨?_, entry, hadmitted, rfl, rfl⟩
    obtain ⟨later, e', earlier, hsplit, hlists, -, hlater⟩ :=
      h.exists_lists_of_preloaded hr hpreloaded
    cases later with
    | nil => cases hsplit; exact hlists
    | cons e'' later => cases hsplit; exact (hlater _ List.mem_cons_self hs).elim
  · have hreports := Registry.reports_status h.keyed domain
    have hcovers : Registry.Covers w.records ancestor :=
      hreports.steps (h.cold_of_succeeded hs).coherent hrun view ancestor rfl hcovered hne
    have hr : w.records[ancestor]? = some (w.records.get ancestor) :=
      Records.getElem?_of_status_get (by rw [hcovers.1]; decide)
    obtain ⟨entry, hadmitted, heq⟩ := h.exists_admitted hr hcovers.1
    refine ⟨entry, hadmitted, ?_⟩
    have hsubdomains := hcovers.2
    rwa [heq] at hsubdomains
  · rw [← h.protected_iff_admitted domain]
    have hkeeps := Registry.keeps_remove_refusal hb hclean w.records
    exact (hkeeps.steps trivial hrun).2 _ rfl issues rfl

end History

namespace Relisting

open History

def older : PreloadList := ⟨[⟨"a.example", .custom, .forceHttps, true⟩]⟩

def newer : PreloadList := ⟨[⟨"a.example", .bulk1Year, .forceHttps, false⟩]⟩

def start : World MemoryStore := .holding []

def listed : Reply × World MemoryStore :=
  start.run (Operation.update.program (.listing older))

/-- A name stays on the list while its attributes change, and an update goes through. -/
def relisted : Reply × World MemoryStore :=
  listed.2.run (Operation.update.program (.listing newer))

def first : Event :=
  ⟨.listing older, .update, start.records, listed.2.records, some listed.1⟩

def second : Event :=
  ⟨.listing newer, .update, listed.2.records, relisted.2.records, some relisted.1⟩

lemma history_relisted : History [second, first] relisted.2 :=
  .next (.listing newer) .update
    (.next (.listing older) .update (.start rfl) rfl (by simp) (start.run_steps _)) rfl (by simp)
    (listed.2.run_steps _)

lemma succeeded_second : second.Succeeded :=
  ⟨rfl, _, _, rfl, rfl⟩

theorem attributes_of_older_entry :
    History [second, first] relisted.2 ∧ second.Succeeded ∧ second.registry.list = .ok newer ∧
      ∃ r entry, relisted.2.records["a.example"]? = some r ∧ r.status = .preloaded ∧
        newer.first? "a.example" = some entry ∧
        r.includeSubDomains ≠ entry.includeSubdomains ∧ r.policy ≠ entry.policy := by
  refine ⟨history_relisted, succeeded_second, rfl, ?_⟩
  refine ⟨⟨"a.example", .preloaded, "", none, true, .custom⟩, _, rfl, rfl, rfl, ?_, ?_⟩
  · decide
  · decide

theorem covered_by_older_entry :
    (∃ view, (relisted.2.run (Registry.status "b.a.example")).1 = .ok view ∧
      view.preloadedDomain = some "a.example") ∧
    ∃ entry, Admitted [second, first] "a.example" entry ∧ entry.includeSubdomains = true := by
  have hview : (relisted.2.run (Registry.status "b.a.example")).1 = .ok
      ⟨⟨"b.a.example", .preloaded, "", none, false, .unspecified⟩, false, some "a.example"⟩ := rfl
  have hrun := relisted.2.run_steps (Registry.status "b.a.example")
  rw [hview] at hrun
  refine ⟨⟨_, hview, rfl⟩, ?_⟩
  exact (preloaded_as_admitted history_relisted succeeded_second).2.1 _ _ _ _ hrun rfl
    (by decide)

end Relisting

end HstsPreload
