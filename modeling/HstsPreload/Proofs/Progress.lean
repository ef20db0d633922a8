import HstsPreload.Proofs.Operations
import HstsPreload.Proofs.Refinement

/-!
# How far an update has come

An update asks three times and then writes. Between two of its accesses it stands at a position,
which determines what it will write from there on if nobody else does.
-/

namespace HstsPreload

open Program

namespace Access

/-- The records that an access has stored, by its answer. -/
def stored : (a : Access) → a.Answer → List Record
  | .commit batch, .ok () => batch
  | _, _ => []

lemma Answers.eq_putAll {a : Access} {rs rs' : Records} {answer : a.Answer}
    (h : a.Answers rs answer rs') : rs' = rs.putAll (a.stored answer) := by
  cases a with
  | load domain | loadList s | loadAll => exact h.1
  | commit batch =>
    rcases h with ⟨rfl, hput⟩ | ⟨⟨fault, rfl⟩, hsame⟩
    · exact hput
    · exact hsame
  | _ => exact h

/-- An access that does not write to the record of a domain. -/
def Spares (domain : String) : Access → Prop
  | .commit batch => domain ∉ batch.map Record.name
  | _ => True

lemma Spares.notMem {domain : String} {a : Access} (h : a.Spares domain) (answer : a.Answer) :
    domain ∉ (a.stored answer).map Record.name := by
  cases a with
  | commit batch =>
    cases answer with
    | ok u => exact h
    | error fault => exact List.not_mem_nil
  | _ => exact List.not_mem_nil

end Access

namespace World

variable {σ α : Type} [RecordStore σ] [LawfulStore σ]

lemma Step.cases {w w' : World σ} {p p' : Program α} (h : Step (w, p) (w', p')) :
    (w'.records = w.records ∧ p' = p) ∨
    ∃ a next answer, p = .step a next ∧ p' = next answer ∧
      a.Answers w.records answer w'.records := by
  cases h with
  | drift _ hd => exact .inl ⟨hd.1, rfl⟩
  | access _ a next => exact .inr ⟨a, next, _, rfl, rfl, w.answers_answer a⟩

lemma Interleaved.cases_pair {w w' : World σ} {p q : Program α} {threads : List (Program α)}
    (h : Interleaved (w, [p, q]) (w', threads)) :
    (∃ p', threads = [p', q] ∧ Step (w, p) (w', p')) ∨
    ∃ q', threads = [p, q'] ∧ Step (w, q) (w', q') := by
  cases h with
  | step i hi hstep =>
    match i with
    | 0 => cases hi; exact .inl ⟨_, rfl, hstep⟩
    | 1 => cases hi; exact .inr ⟨_, rfl, hstep⟩
    | _ + 2 => cases hi

end World

namespace Program

variable {α β : Type} {σ : Type} [RecordStore σ] [LawfulStore σ]

/-- Every access of a program, whatever it is told, is an allowed one. -/
def Uses (allowed : Access → Prop) : Program α → Prop
  | .done _ => True
  | .step a next => allowed a ∧ ∀ answer, (next answer).Uses allowed

lemma Settled.step {post : α → Prop} {w w' : World σ} {p p' : Program α} (h : p.Settled post)
    (hs : World.Step (w, p) (w', p')) : w'.records = w.records ∧ p'.Settled post := by
  obtain ⟨hr, rfl⟩ | ⟨a, next, answer, rfl, rfl, ha⟩ := hs.cases
  · exact ⟨hr, h⟩
  · refine ⟨?_, h.2 answer⟩
    have hstored : a.stored answer = [] := by
      cases a with
      | commit batch => cases h.1
      | _ => rfl
    rw [ha.eq_putAll, hstored]
    rfl

/-- What the steps of a program preserve holds also at the end of a run beside a program that
writes no more. -/
lemma Settled.beside {post : α → Prop} {P : Records → Program α → Prop}
    (hstep : ∀ (w w' : World σ) (p p' : Program α), World.Step (w, p) (w', p') →
      P w.records p → P w'.records p')
    {w w' : World σ} {p p' q q' : Program α} (hq : q.Settled post) (hp : P w.records p)
    (hs : Relation.ReflTransGen World.Interleaved (w, [p, q]) (w', [p', q'])) :
    P w'.records p' := by
  have hend : ∃ p₁ q₁, [p', q'] = [p₁, q₁] ∧ q₁.Settled post ∧ P w'.records p₁ := by
    refine World.holds_along (P := fun x : World σ × List (Program α) =>
      ∃ p₁ q₁, x.2 = [p₁, q₁] ∧ q₁.Settled post ∧ P x.1.records p₁) ?_ hs ⟨p, q, rfl, hq, hp⟩
    rintro ⟨w₁, _⟩ ⟨w₂, threads⟩ hone ⟨p₁, q₁, rfl, hq₁, hp₁⟩
    obtain ⟨p₂, rfl, hs₁⟩ | ⟨q₂, rfl, hs₁⟩ := hone.cases_pair
    · exact ⟨p₂, q₁, rfl, hq₁, hstep _ _ _ _ hs₁ hp₁⟩
    · obtain ⟨hr, hq₂⟩ := hq₁.step hs₁
      exact ⟨p₁, q₂, rfl, hq₂, hr ▸ hp₁⟩
  obtain ⟨p₁, q₁, heq, -, hp₁⟩ := hend
  cases heq
  exact hp₁

lemma Uses.step_spares {domain : String} {w w' : World σ} {p p' : Program α}
    (hs : World.Step (w, p) (w', p')) (h : p.Uses (Access.Spares domain)) :
    w'.records[domain]? = w.records[domain]? ∧ p'.Uses (Access.Spares domain) := by
  obtain ⟨hr, rfl⟩ | ⟨a, next, answer, rfl, rfl, ha⟩ := hs.cases
  · exact ⟨by rw [hr], h⟩
  · refine ⟨?_, h.2 answer⟩
    rw [ha.eq_putAll, Records.getElem?_putAll_of_notMem _ _ _ (h.1.notMem answer)]

/-- A program that asks the store for the records with a status next. -/
def Asks (s : Status) (p : Program α) : Prop :=
  ∃ next, p = .step (.loadList s) next

/-- A program that asks nothing any more and writes `left`, in this order. It may give up, but
not with a `complete` answer. -/
def Writes (complete : α → Prop) : Program α → List Record → Prop
  | .done a, left => complete a → left = []
  | .step a next, left => a.isLoad = false ∧ ∀ answer, ∃ later,
      left = a.stored answer ++ later ∧ (next answer).Writes complete later

namespace Writes

variable {complete : α → Prop} {mid : β → Prop}

lemma bind {p : Program β} {f : β → Program α} {left : List Record} (h : p.Writes mid left)
    (hf : ∀ b later, (mid b → later = []) → (f b).Writes complete later) :
    (p >>= f).Writes complete left := by
  induction p generalizing left with
  | done b => exact hf b left h
  | step a next ih =>
    refine ⟨h.1, fun answer => ?_⟩
    obtain ⟨later, hleft, hnext⟩ := h.2 answer
    exact ⟨later, hleft, ih answer hnext⟩

lemma commit {batch left : List Record} {next : Except StoreFault Unit → Program α}
    (hok : (next (.ok ())).Writes complete left)
    (herror : ∀ fault, (next (.error fault)).Writes complete (batch ++ left)) :
    (access (.commit batch) >>= next).Writes complete (batch ++ left) := by
  refine ⟨rfl, fun answer => ?_⟩
  cases answer with
  | ok u => exact ⟨left, rfl, hok⟩
  | error fault => exact ⟨batch ++ left, rfl, herror fault⟩

end Writes

end Program

lemma Writer.writes_commitAll (batches : List (List Record)) :
    (commitAll batches).Writes (fun r => r.outcome = .ok ()) batches.flatten := by
  induction batches with
  | nil => exact fun _ => rfl
  | cons batch left ih =>
    refine Writes.commit (Writes.bind ih fun r later h => ?_) fun fault => ?_
    · exact h
    · exact fun h => by cases h

lemma Writer.writes_putAll (updates : List Record) :
    (putAll updates).Writes (fun r => r.outcome = .ok ()) updates := by
  unfold putAll
  split
  · next h => exact fun _ => List.isEmpty_iff.mp h
  · have h := writes_commitAll (batches updates)
    rwa [flatten_batches] at h

def Reply.Succeeds (reply : Reply) : Prop :=
  ∃ report n, reply = .updated report ∧ report.outcome = .ok n

namespace Registry

variable (reg : Registry) (l : PreloadList)

/-- An update that asks for the records with a status, and gives up if it is not told. -/
def asking (s : Status) (what : String) (next : List Record → Program Reply) : Program Reply :=
  .step (.loadList s) fun
    | .error fault => .done (.updated ⟨"", .error (.read what fault)⟩)
    | .ok found => next found

def updateWriting (p : Plan) : Program Reply := do
  let r ← (do let r ← reg.applyPlan p; return ⟨p.summary ++ r.text, r.outcome⟩ :
    Program UpdateReport)
  return .updated r

/-- What is left of an update that has been told of the preloaded records and of those whose
removal was asked for. -/
def updateAfterRemovals (preloaded removals : List Record) : Program Reply :=
  asking .pendingAutomatedRemoval "pending automated removal" fun automated =>
    reg.updateWriting (.build l preloaded removals automated)

/-- What is left of an update that has been told of the preloaded records. -/
def updateAfterPreloaded (preloaded : List Record) : Program Reply :=
  asking .pendingRemoval "pending removal" fun removals =>
    reg.updateAfterRemovals l preloaded removals

variable {reg l}

lemma program_update (hl : reg.list = .ok l) : Operation.update.program reg =
    asking .preloaded "preloaded" fun preloaded => reg.updateAfterPreloaded l preloaded := by
  rw [Operation.program, update, planUpdate, hl]
  refine congrArg (Program.step _) (funext fun answer => ?_)
  cases answer with
  | error fault => rfl
  | ok preloaded =>
    refine congrArg (Program.step _) (funext fun answer => ?_)
    cases answer with
    | error fault => rfl
    | ok removals =>
      refine congrArg (Program.step _) (funext fun answer => ?_)
      cases answer <;> rfl

lemma writes_updateWriting (hb : reg.Batched) (p : Plan) :
    (reg.updateWriting p).Writes Reply.Succeeds p.updates := by
  have happly : (reg.applyPlan p).Writes (fun r => ∃ n, r.outcome = .ok n) p.updates := by
    unfold applyPlan
    rw [hb]
    refine (Writer.writes_putAll p.updates).bind fun w later h => ⟨rfl, fun _ => ⟨later, rfl, ?_⟩⟩
    rintro ⟨n, hn⟩
    refine h ?_
    cases ho : w.outcome with
    | ok u => rfl
    | error fault => simp [Plan.report, ho] at hn
  have htold : (do let r ← reg.applyPlan p; return ⟨p.summary ++ r.text, r.outcome⟩ :
      Program UpdateReport).Writes (fun r => ∃ n, r.outcome = .ok n) p.updates :=
    happly.bind fun r later h => h
  refine htold.bind fun r later h => ?_
  rintro ⟨report, n, ⟨⟩, hn⟩
  exact h ⟨n, hn⟩

/-- Where an update stands, with what it has been told and is still to use. -/
inductive Position where
  | begun
  | toldPreloaded (preloaded : List Record)
  | toldRemovals (preloaded removals : List Record)
  | planned (left : List Record)

namespace Position

/-- What an update will write from a position on if the records stay as they are until it has
asked everything. -/
def left (l : PreloadList) (rs : Records) : Position → List Record
  | begun => (Plan.ofRecords l rs).updates
  | toldPreloaded preloaded =>
    (Plan.build l preloaded (rs.withStatus .pendingRemoval)
      (rs.withStatus .pendingAutomatedRemoval)).updates
  | toldRemovals preloaded removals =>
    (Plan.build l preloaded removals (rs.withStatus .pendingAutomatedRemoval)).updates
  | planned left => left

/-- The programs that stand at a position. -/
def Of (reg : Registry) (l : PreloadList) (p : Program Reply) : Position → Prop
  | begun => p = Operation.update.program reg
  | toldPreloaded preloaded => p = reg.updateAfterPreloaded l preloaded
  | toldRemovals preloaded removals => p = reg.updateAfterRemovals l preloaded removals
  | planned left => p.Writes Reply.Succeeds left

/-- A position at which an update can stand if nobody else has written since it began with the
records `start`. -/
def Undisturbed (l : PreloadList) (start rs : Records) : Position → Prop
  | begun => rs = start
  | toldPreloaded preloaded => rs = start ∧ preloaded = start.withStatus .preloaded
  | toldRemovals preloaded removals => rs = start ∧ preloaded = start.withStatus .preloaded ∧
      removals = start.withStatus .pendingRemoval
  | planned left => ∃ written, (Plan.ofRecords l start).updates = written ++ left ∧
      rs = start.putAll written

variable {p : Position}

lemma Undisturbed.exists_written {start rs : Records} (h : p.Undisturbed l start rs) :
    ∃ written, (Plan.ofRecords l start).updates = written ++ p.left l rs ∧
      rs = start.putAll written := by
  cases p with
  | begun =>
    cases h
    exact ⟨[], rfl, rfl⟩
  | toldPreloaded preloaded =>
    obtain ⟨rfl, rfl⟩ := h
    exact ⟨[], rfl, rfl⟩
  | toldRemovals preloaded removals =>
    obtain ⟨rfl, rfl, rfl⟩ := h
    exact ⟨[], rfl, rfl⟩
  | planned left => exact h

lemma Undisturbed.advances {start rs : Records} (h : p.Undisturbed l start rs) (hk : start.Keyed) :
    start.Advances l rs := by
  obtain ⟨written, hupdates, rfl⟩ := h.exists_written
  refine Plan.advances_of_subset l hk ?_
  rw [hupdates]
  exact List.subset_append_left _ _

lemma Undisturbed.advances_putAll {start rs : Records} (h : p.Undisturbed l start rs) (hk : start.Keyed)
    {now unwritten : List Record} (hleft : p.left l rs = now ++ unwritten) :
    rs.Advances l (rs.putAll now) := by
  refine Records.Advances.putAll fun r hr => ?_
  rw [(h.advances hk).reconciled?]
  obtain ⟨written, hupdates, -⟩ := h.exists_written
  refine Plan.reconciled?_of_mem_updates l hk ?_
  rw [hupdates, hleft]
  exact List.mem_append_right _ (List.mem_append_left _ hr)

lemma Undisturbed.mem_left_cases {start rs : Records} (h : p.Undisturbed l start rs) {rs' : Records} {x : Record}
    (hx : x ∈ p.left l rs') : (∃ e, l.first? x.name = some e ∧ x = e.record) ∨
      l.first? x.name = none ∧ (x.status = .removed ∨ x.status = .rejected) := by
  cases p with
  | planned left =>
    obtain ⟨written, hupdates, -⟩ := h
    have hmem : x ∈ (Plan.ofRecords l start).updates := by
      rw [hupdates]
      exact List.mem_append_right written hx
    exact Plan.mem_updates_cases l _ _ _ hmem
  | _ => exact Plan.mem_updates_cases l _ _ _ hx

lemma Of.asks {u : Program Reply} (h : p.Of reg l u) (hl : reg.list = .ok l) {s : Status} (hs : u.Asks s) :
    (p = .begun ∧ s = .preloaded) ∨ (∃ preloaded, p = .toldPreloaded preloaded ∧
      s = .pendingRemoval) ∨ s = .pendingAutomatedRemoval := by
  obtain ⟨next, rfl⟩ := hs
  cases p with
  | begun => cases Eq.trans h (program_update hl); exact .inl ⟨rfl, rfl⟩
  | toldPreloaded preloaded => cases h; exact .inr (.inl ⟨preloaded, rfl, rfl⟩)
  | toldRemovals preloaded removals => cases h; exact .inr (.inr rfl)
  | planned left => cases h.1

lemma Of.left_of_done {reply : Reply} (h : p.Of reg l (.done reply)) (hl : reg.list = .ok l)
    (hs : reply.Succeeds) (rs : Records) : p.left l rs = [] := by
  cases p with
  | begun => cases Eq.trans h (program_update hl)
  | toldPreloaded preloaded => cases h
  | toldRemovals preloaded removals => cases h
  | planned left => exact h hs

variable {σ : Type} [RecordStore σ] [LawfulStore σ]

/-- An update that asks is told, or gives up, or just waits. -/
lemma asking_cases {s : Status} {what : String} {next : List Record → Program Reply}
    {w w' : World σ} {u : Program Reply} (hs : World.Step (w, asking s what next) (w', u)) :
    w'.records = w.records ∧ (u = asking s what next ∨ u = next (w.records.withStatus s) ∨
      ∀ left, u.Writes Reply.Succeeds left) := by
  obtain ⟨hr, rfl⟩ | ⟨a, rest, answer, hstep, rfl, ha⟩ := hs.cases
  · exact ⟨hr, .inl rfl⟩
  · cases hstep
    refine ⟨ha.1, .inr ?_⟩
    cases answer with
    | ok found => exact .inl (by rw [ha.2 found rfl])
    | error fault =>
      refine .inr fun left => ?_
      rintro ⟨report, n, ⟨⟩, h⟩
      cases h

/-- With each of its steps an update moves on to a position from which the rest is written. -/
theorem step (hb : reg.Batched) (hl : reg.list = .ok l) {w w' : World σ}
    {u u' : Program Reply} (hs : World.Step (w, u) (w', u')) (h : p.Of reg l u) :
    ∃ (p' : Position) (now : List Record), p'.Of reg l u' ∧
      p.left l w.records = now ++ p'.left l w'.records ∧ w'.records = w.records.putAll now ∧
      ∀ start, p.Undisturbed l start w.records → p'.Undisturbed l start w'.records := by
  cases p with
  | begun =>
    cases h.trans (program_update hl)
    obtain ⟨hr, rfl | rfl | hgone⟩ := asking_cases hs
    · exact ⟨begun, [], (program_update hl).symm, by rw [hr]; rfl, hr, fun _ => hr.trans⟩
    · refine ⟨toldPreloaded _, [], rfl, by rw [hr]; rfl, hr, ?_⟩
      rintro start rfl
      exact ⟨hr, rfl⟩
    · exact ⟨planned _, [], hgone _, rfl, hr, fun start hu => hr ▸ hu.exists_written⟩
  | toldPreloaded preloaded =>
    cases h
    obtain ⟨hr, rfl | rfl | hgone⟩ := asking_cases hs
    · refine ⟨toldPreloaded preloaded, [], rfl, by rw [hr]; rfl, hr, ?_⟩
      exact fun start hu => ⟨hr.trans hu.1, hu.2⟩
    · refine ⟨toldRemovals preloaded _, [], rfl, by rw [hr]; rfl, hr, ?_⟩
      rintro start ⟨rfl, hpreloaded⟩
      exact ⟨hr, hpreloaded, rfl⟩
    · exact ⟨planned _, [], hgone _, rfl, hr, fun start hu => hr ▸ hu.exists_written⟩
  | toldRemovals preloaded removals =>
    cases h
    obtain ⟨hr, rfl | rfl | hgone⟩ := asking_cases hs
    · refine ⟨toldRemovals preloaded removals, [], rfl, by rw [hr]; rfl, hr, ?_⟩
      exact fun start hu => ⟨hr.trans hu.1, hu.2⟩
    · refine ⟨planned _, [], writes_updateWriting hb _, rfl, hr, ?_⟩
      rintro start ⟨rfl, rfl, rfl⟩
      exact ⟨[], rfl, hr⟩
    · exact ⟨planned _, [], hgone _, rfl, hr, fun start hu => hr ▸ hu.exists_written⟩
  | planned left =>
    obtain ⟨hr, rfl⟩ | ⟨a, next, answer, rfl, rfl, ha⟩ := hs.cases
    · exact ⟨planned left, [], h, rfl, hr, fun start hu => hr ▸ hu⟩
    obtain ⟨later, hleft, hnext⟩ := h.2 answer
    refine ⟨planned later, a.stored answer, hnext, hleft, ha.eq_putAll, ?_⟩
    rintro start ⟨written, hupdates, hr⟩
    refine ⟨written ++ a.stored answer, ?_, ?_⟩
    · rw [hupdates, hleft, List.append_assoc]
    · rw [ha.eq_putAll, hr, Records.putAll_append]

/-- An update that is done beside a program that writes no more has written what was left at its
position, all of it if it succeeds. -/
lemma Of.written {u : Program Reply} (h : p.Of reg l u) (hb : reg.Batched) (hl : reg.list = .ok l) {w w' : World σ}
    {q q' : Program Reply} {reply : Reply} (hq : q.Settled fun _ => True)
    (hs : Relation.ReflTransGen World.Interleaved (w, [u, q]) (w', [.done reply, q'])) :
    ∃ written unwritten, p.left l w.records = written ++ unwritten ∧
      w'.records = w.records.putAll written ∧ (reply.Succeeds → unwritten = []) := by
  have hend : ∃ (p' : Position) (written : List Record), p'.Of reg l (.done reply) ∧
      p.left l w.records = written ++ p'.left l w'.records ∧
        w'.records = w.records.putAll written := by
    refine hq.beside (P := fun rs v => ∃ (p' : Position) (written : List Record), p'.Of reg l v ∧
      p.left l w.records = written ++ p'.left l rs ∧ rs = w.records.putAll written) ?_
      ⟨p, [], h, rfl, rfl⟩ hs
    rintro w₁ w₂ v v' hstep ⟨p₁, written, hof, hleft, hr⟩
    obtain ⟨p₂, now, hof', hleft', hr', -⟩ := p₁.step hb hl hstep hof
    refine ⟨p₂, written ++ now, hof', ?_, ?_⟩
    · rw [hleft, hleft', List.append_assoc]
    · rw [hr', Records.putAll_append, ← hr]
  obtain ⟨p', written, hof, hleft, hr⟩ := hend
  exact ⟨written, _, hleft, hr, fun hsucceeds => hof.left_of_done hl hsucceeds _⟩

end Position

end Registry

end HstsPreload
