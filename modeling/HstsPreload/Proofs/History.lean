import HstsPreload.Proofs.Operations
import HstsPreload.Proofs.Refinement

/-!
# Histories

A history is a run of operations from an empty store on, one after another, each of which may
fail at any access or be cut off. Every record that is stored goes back to one operation, the
last that changed what is stored under its name.
-/

namespace HstsPreload

open Program

def Program.answer? {α : Type} : Program α → Option α
  | .done a => some a
  | .step _ _ => none

/-- What an operation that found the records `rs` may make of them, even if it is cut off. -/
def Operation.Effect (reg : Registry) (op : Operation) (rs rs' : Records) : Prop :=
  rs' = rs ∨ (∃ r, op.Decides reg rs r ∧ rs' = rs.put r) ∨
    ∃ l, op = .update ∧ reg.list = .ok l ∧ rs.Advances l rs'

/-- One operation of a run, with the records before and after it. There is no reply if the
operation was cut off or is under way. -/
structure Event where
  registry : Registry
  operation : Operation
  before : Records
  after : Records
  reply : Option Reply

namespace Event

def Succeeded (e : Event) : Prop :=
  e.operation = .update ∧ ∃ r n, e.reply = some (.updated r) ∧ r.outcome = .ok n

/-- An update that did not get to the end of its plan: a write failed, or there is no reply. -/
def Partway (e : Event) : Prop :=
  e.operation = .update ∧ (e.reply = none ∨
    ∃ r told fault, e.reply = some (.updated r) ∧ r.outcome = .error (.write told fault))

/-- The records after an operation are owed to it. -/
structure Explained (e : Event) : Prop where
  effect : e.operation.Effect e.registry e.before e.after
  success : e.Succeeded → ∃ l, e.registry.list = .ok l ∧ e.after = e.before.settled l
  update : e.operation = .update → e.after = e.before ∨ e.Succeeded ∨ e.Partway

end Event

section Effects

variable {σ : Type} [RecordStore σ] [LawfulStore σ] {reg : Registry} {w w' : World σ}
  {p : Program Reply}

lemma Operation.explained_of_ne_update (hb : reg.Batched) {op : Operation} (hop : op ≠ .update)
    (hs : Relation.ReflTransGen World.Step (w, op.program reg) (w', p)) :
    Event.Explained ⟨reg, op, w.records, w'.records, p.answer?⟩ := by
  have hkeeps : (op.program reg).Keeps (.alone (op.Effect reg w.records)) (fun _ _ => True)
      w.records := by
    refine keeps_decided hb op hop ?_
    rintro _ _ r rfl rfl hd -
    exact .inr (.inl ⟨r, hd, rfl⟩)
  obtain ⟨heffect, -⟩ := hkeeps.steps (.inl rfl) hs
  exact ⟨heffect, fun hsucceeded => (hop hsucceeded.1).elim, fun hupdate => (hop hupdate).elim⟩

lemma Operation.explained_update (hb : reg.Batched) (hk : w.records.Keyed)
    (hs : Relation.ReflTransGen World.Step (w, Operation.update.program reg) (w', p)) :
    Event.Explained ⟨reg, .update, w.records, w'.records, p.answer?⟩ := by
  have hkeeps : (Operation.update.program reg).Keeps
      (.alone (Operation.update.Effect reg w.records)) (fun rs reply =>
        ∃ report, reply = .updated report ∧ Registry.UpdateEnds
          (.alone (Operation.update.Effect reg w.records)) (reg.WrittenAlone w.records) w.records
          rs report.outcome) w.records := by
    refine (Registry.keeps_update_alone hb _ w.records fun l j hl => ?_).bind
      fun rs report hend => Keeps.pure fun _ hr => hr ▸ ⟨report, rfl, hend⟩
    exact .inr (.inr ⟨l, rfl, hl, Plan.advances_of_subset l hk (List.take_subset _ _)⟩)
  obtain ⟨heffect, hrest⟩ := hkeeps.steps (.inl rfl) hs
  cases p with
  | step a next =>
    -- the update was cut off before it could reply
    refine ⟨heffect, ?_, fun _ => .inr (.inr ⟨rfl, .inl rfl⟩)⟩
    rintro ⟨-, r, n, hreply, -⟩
    cases hreply
  | done reply =>
    obtain ⟨report, rfl, hend⟩ := hrest _ rfl
    refine ⟨heffect, ?_, fun _ => ?_⟩
    · rintro ⟨-, r, n, hreply, hn⟩
      cases hreply
      rw [hn] at hend
      obtain ⟨p, -, hp⟩ := hend.of_ok
      obtain ⟨l, hl, -, hw'⟩ := hp.of_nil
      exact ⟨l, hl, hw'⟩
    · generalize ho : report.outcome = outcome at hend
      cases hend with
      | written p hp => exact .inr (.inl ⟨rfl, report, _, rfl, ho⟩)
      | brokenOff p told fault left hne hp =>
        exact .inr (.inr ⟨rfl, .inr ⟨report, told, fault, rfl, ho⟩⟩)
      | unplanned fault hne hr => exact .inl hr.symm

lemma Operation.explained (hb : reg.Batched) (hk : w.records.Keyed) (op : Operation)
    (hs : Relation.ReflTransGen World.Step (w, op.program reg) (w', p)) :
    Event.Explained ⟨reg, op, w.records, w'.records, p.answer?⟩ := by
  by_cases hop : op = .update
  · subst hop
    exact explained_update hb hk hs
  · exact explained_of_ne_update hb hop hs

end Effects

/-- Runs of submissions, removal requests and updates from an empty store on, the latest event
first. The last operation need not have come to its end, and none of the others either. -/
inductive History {σ : Type} [RecordStore σ] [LawfulStore σ] : List Event → World σ → Prop where
  | start {w : World σ} : w.records = ∅ → History [] w
  | next {events : List Event} {w w' : World σ} {p : Program Reply} (reg : Registry)
      (op : Operation) : History events w → reg.Batched → (∀ domain, op ≠ .setPreloaded domain) →
      Relation.ReflTransGen World.Step (w, op.program reg) (w', p) →
      History (⟨reg, op, w.records, w'.records, p.answer?⟩ :: events) w'

namespace Event

def Stores (e : Event) (name : String) (r : Record) : Prop :=
  e.before[name]? ≠ some r ∧ e.after[name]? = some r

/-- The operation left what is stored under a name. -/
def Leaves (e : Event) (name : String) (r : Record) : Prop :=
  e.before[name]? = some r ∧ e.after[name]? = some r

lemma Explained.isSome_after {e : Event} (h : e.Explained) {name : String}
    (hn : e.before[name]?.isSome) : e.after[name]?.isSome := by
  rcases h.effect with hsame | ⟨r, -, hput⟩ | ⟨l, -, -, hadvances⟩
  · rwa [hsame]
  · rw [hput, Records.getElem?_put]
    split
    · rfl
    · exact hn
  · rcases hadvances name with ha | ha
    · rwa [ha]
    · cases hd : (e.before.get name).onReconcile (l.first? name) with
      | unchanged => rwa [ha, Records.reconciled?_of_unchanged hd]
      | transition r => rw [ha, Records.reconciled?_of_transition hd]; rfl

/-- A changed record is what one of the three decisions about the record before it asks for. -/
lemma Explained.of_stores {e : Event} (h : e.Explained) (hk : e.before.Keyed) {name : String}
    {r : Record} (hs : e.Stores name r) :
    (e.operation.domain? = some name ∧ e.operation.Decides e.registry e.before r) ∨
    ∃ l, e.registry.list = .ok l ∧ (e.Succeeded ∨ e.Partway) ∧
      (e.before.get name).onReconcile (l.first? name) = .transition r := by
  obtain ⟨hbefore, hafter⟩ := hs
  rcases h.effect with hsame | ⟨r', hd, hput⟩ | ⟨l, hop, hl, hadvances⟩
  · rw [hsame] at hafter
    exact (hbefore hafter).elim
  · rw [hput, Records.getElem?_put] at hafter
    split at hafter
    · next hname =>
      cases hafter
      exact .inl ⟨hname ▸ hd.domain?_eq hk, hd⟩
    · exact (hbefore hafter).elim
  · have hended : e.Succeeded ∨ e.Partway := by
      refine (h.update hop).resolve_left fun hsame => hbefore ?_
      rwa [hsame] at hafter
    rcases hadvances name with ha | ha
    · exact (hbefore (ha ▸ hafter)).elim
    · cases hd : (e.before.get name).onReconcile (l.first? name) with
      | unchanged =>
        rw [ha, Records.reconciled?_of_unchanged hd] at hafter
        exact (hbefore hafter).elim
      | transition r' =>
        rw [ha, Records.reconciled?_of_transition hd] at hafter
        cases hafter
        exact .inr ⟨l, hl, hended, hd⟩

end Event

namespace History

variable {σ : Type} [RecordStore σ] [LawfulStore σ] {events : List Event} {w : World σ}

lemma keyed (h : History events w) : w.records.Keyed := by
  induction h with
  | start hw => rw [hw]; exact Records.keyed_empty
  | next reg op _ _ _ hs ih => exact World.keyed_of_steps hs ih

lemma explained (h : History events w) :
    ∀ e ∈ events, e.Explained ∧ e.before.Keyed ∧ ∀ domain, e.operation ≠ .setPreloaded domain := by
  induction h with
  | start hw => simp
  | next reg op hist hb hop hs ih =>
    rw [List.forall_mem_cons]
    exact ⟨⟨op.explained hb hist.keyed hs, hist.keyed, hop⟩, ih⟩

/-- A stored record goes back to the last operation that changed it. -/
theorem origin (h : History events w) {name : String} {r : Record}
    (hr : w.records[name]? = some r) :
    ∃ later e earlier, events = later ++ e :: earlier ∧ e.Stores name r ∧
      ∀ e' ∈ later, e'.Leaves name r := by
  induction h with
  | start hw => rw [hw] at hr; simp at hr
  | @next events w w' p reg op hist hb hop hs ih =>
    -- either the record is older than the latest operation, or that operation stored it
    by_cases hbefore : w.records[name]? = some r
    · obtain ⟨later, e, earlier, rfl, he, hlater⟩ := ih hbefore
      refine ⟨_ :: later, e, earlier, rfl, he, ?_⟩
      exact List.forall_mem_cons.mpr ⟨⟨hbefore, hr⟩, hlater⟩
    · exact ⟨[], _, events, rfl, ⟨hbefore, hr⟩, by simp⟩

theorem isSome_of_mem (h : History events w) {e : Event} (he : e ∈ events) {name : String}
    (hn : e.before[name]?.isSome ∨ e.after[name]?.isSome) : w.records[name]?.isSome := by
  induction h with
  | start hw => cases he
  | @next events w w' p reg op hist hb hop hs ih =>
    have hexplained := op.explained hb hist.keyed hs
    rcases List.mem_cons.mp he with rfl | he
    · exact hn.elim hexplained.isSome_after id
    · exact hexplained.isSome_after (ih he)

end History

end HstsPreload
