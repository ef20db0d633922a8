import HstsPreload.Proofs.Progress

/-!
# Removal requests beside a running update

An update plans from records that it read before, and writes without looking again. A removal
that is stored in between is lost if the plan has the domain joining the list, or gone from it.
-/

namespace HstsPreload

open Program

namespace Records

/-- The removal of a domain is asked for still, or has come to nothing since the domain is not on
the list. -/
def Leaving (rs : Records) (l : PreloadList) (domain : String) : Prop :=
  (rs.get domain).status = .pendingRemoval ∨
    l.first? domain = none ∧ (rs.get domain).status = .rejected

/-- A domain has joined the list, or is recorded as gone from it. -/
def Overtaken (rs : Records) (l : PreloadList) (domain : String) : Prop :=
  (∃ e, l.first? domain = some e ∧ rs[domain]? = some e.record) ∨
    l.first? domain = none ∧ (rs.get domain).status = .removed

/-- An update is due to change the record of a domain that may be asked to leave. -/
def Contested (rs : Records) (l : PreloadList) (domain : String) : Prop :=
  (rs.get domain).status = .pending ∧ (l.first? domain).isSome ∨
    (rs.get domain).status = .preloaded ∧ l.first? domain = none

variable {l : PreloadList} {rs rs' : Records} {domain : String}

lemma contested_of_transition {r : Record}
    (hs : (rs.get domain).status = .preloaded ∨ (rs.get domain).status = .pending)
    (h : (rs.get domain).onReconcile (l.first? domain) = .transition r) :
    rs.Contested l domain := by
  obtain ⟨e, he, ht, -⟩ | ⟨hn, hs', -⟩ | ⟨-, hs', -⟩ := Record.onReconcile_cases h
  · refine .inl ⟨hs.resolve_left fun hs => ht (.inl hs), ?_⟩
    rw [he]
    rfl
  · exact .inr ⟨hs', hn⟩
  · rw [hs'] at hs
    simp at hs

end Records

namespace Program

variable {α : Type} {σ : Type} [RecordStore σ] [LawfulStore σ]

/-- A program that has still to save one record, a `due` one, before it can give an answer that
satisfies `post`. Until then it writes nothing, and the records move on as `later` allows. -/
def Owes (later : Records → Records → Prop) (due : Records → Record → Prop) (post : α → Prop) :
    Program α → Records → Prop
  | .done a, _ => ¬post a
  | .step a next, rs => ∀ rs' answer rs'', later rs rs' → a.Answers rs' answer rs'' →
      (a.stored answer = [] ∧ (next answer).Owes later due post rs') ∨
        ∃ r, due rs' r ∧ a.stored answer = [r] ∧ (next answer).Settled fun _ => True

/-- A step in which a program saves a record. -/
inductive Saves (r : Record) : World σ × Program α → World σ × Program α → Prop where
  | commit (w : World σ) (next : Except StoreFault Unit → Program α) :
      (w.answer (.commit [r])).1 = .ok () →
        Saves r (w, .step (.commit [r]) next) ((w.answer (.commit [r])).2, next (.ok ()))

variable {later : Records → Records → Prop} {due : Records → Record → Prop} {post : α → Prop}

namespace Owes

lemma of_later (htrans : ∀ {rs rs' rs''}, later rs rs' → later rs' rs'' → later rs rs'')
    {p : Program α} {rs rs' : Records} (h : p.Owes later due post rs) (hr : later rs rs') :
    p.Owes later due post rs' := by
  cases p with
  | done a => exact h
  | step a next => exact fun rs₁ answer rs₂ hr' => h rs₁ answer rs₂ (htrans hr hr')

lemma step (hrefl : ∀ rs, later rs rs) {w w' : World σ} {p p' : Program α}
    (h : p.Owes later due post w.records) (hs : World.Step (w, p) (w', p')) :
    (w'.records = w.records ∧ p'.Owes later due post w'.records) ∨
      ∃ r, due w.records r ∧ Saves r (w, p) (w', p') ∧ w'.records = w.records.put r ∧
        p'.Settled fun _ => True := by
  cases hs with
  | drift _ hd => exact .inl ⟨hd.1, hd.1 ▸ h⟩
  | access _ a next =>
    have ha := w.answers_answer a
    rcases h _ _ _ (hrefl _) ha with ⟨hnone, hnext⟩ | ⟨r, hdue, hone, hnext⟩
    · have hr : (w.answer a).2.records = w.records := by rw [ha.eq_putAll, hnone]; rfl
      exact .inl ⟨hr, hr ▸ hnext⟩
    · refine .inr ⟨r, hdue, ?_, by rw [ha.eq_putAll, hone]; rfl, hnext⟩
      cases a with
      | commit batch =>
        cases hanswer : (w.answer (.commit batch)).1 with
        | ok u =>
          rw [hanswer] at hone
          cases hone
          exact .commit w next hanswer
        | error fault => rw [hanswer] at hone; cases hone
      | _ => cases hone

lemma map {β : Type} {post' : β → Prop} {f : α → β} (hf : ∀ a, post' (f a) → post a)
    {p : Program α} {rs : Records} (h : p.Owes later due post rs) :
    (p >>= fun a => Pure.pure (f a)).Owes later due post' rs := by
  induction p generalizing rs with
  | done a => exact fun hpost => h (hf a hpost)
  | step a next ih =>
    intro rs' answer rs'' hr ha
    rcases h rs' answer rs'' hr ha with ⟨hnone, hnext⟩ | ⟨r, hdue, hone, hnext⟩
    · exact .inl ⟨hnone, ih answer hnext⟩
    · exact .inr ⟨r, hdue, hone, hnext.map f⟩

lemma load {domain : String} {next : Except StoreFault Record → Program α} {rs : Records}
    (hok : ∀ rs', later rs rs' → (next (.ok (rs'.get domain))).Owes later due post rs')
    (herror : ∀ rs' fault, later rs rs' → (next (.error fault)).Owes later due post rs') :
    (access (.load domain) >>= next).Owes later due post rs := by
  rintro rs' answer _ hr ⟨rfl, ha⟩
  refine .inl ⟨rfl, ?_⟩
  cases answer with
  | ok r => rw [ha r rfl]; exact hok _ hr
  | error fault => exact herror _ fault hr

lemma save {r : Record} {next : Except StoreFault Unit → Program α} {rs : Records}
    (hok : ∀ rs', later rs rs' → due rs' r ∧ (next (.ok ())).Settled fun _ => True)
    (herror : ∀ rs' fault, later rs rs' → (next (.error fault)).Owes later due post rs') :
    (access (.commit [r]) >>= next).Owes later due post rs := by
  rintro rs' answer rs'' hr -
  cases answer with
  | ok u => exact .inr ⟨r, (hok rs' hr).1, rfl, (hok rs' hr).2⟩
  | error fault => exact .inl ⟨rfl, herror rs' fault hr⟩

end Owes

end Program

lemma Issues.pushError_ne (is : Issues) (i : Issue) : is.pushError i ≠ {} := fun h => by
  simpa [pushError] using congrArg Issues.errors h

lemma Issues.pushWarning_ne (is : Issues) (i : Issue) : is.pushWarning i ≠ {} := fun h => by
  simpa [pushWarning] using congrArg Issues.warnings h

/-- What a removal request stores once it has found a domain that may leave, where the records
move towards the list from `start` on. -/
structure Records.RemovalDue (l : PreloadList) (start : Records) (domain : String) (rs : Records)
    (r : Record) : Prop where
  name : r.name = domain
  status : r.status = .pendingRemoval
  read : ∃ rs₁, start.Advances l rs₁ ∧ rs₁.Advances l rs ∧
    ((rs₁.get domain).status = .preloaded ∨ (rs₁.get domain).status = .pending)

lemma Registry.owes_remove {reg : Registry} (hb : reg.Batched) (l : PreloadList)
    (domain : String) {start : Records} (hk : start.Keyed) :
    ((Operation.remove domain).program reg).Owes (Records.Advances l)
      (Records.RemovalDue l start domain) (· = .decided (.ok {})) start := by
  have hremove : (reg.remove domain).Owes (Records.Advances l)
      (Records.RemovalDue l start domain) (· = .ok {}) start := by
    unfold remove
    dsimp only
    split
    · next herrors =>
      intro h
      rw [Except.ok.inj h] at herrors
      cases herrors
    refine Owes.load (fun rs₁ h₁ => ?_) fun rs₁ fault h₁ h => by cases h
    dsimp only
    split
    · next next haccept =>
      obtain ⟨rfl, hs, -⟩ := Record.onRemove_accept haccept
      unfold persist
      rw [hb]
      refine Owes.save (fun rs₂ h₂ => ⟨⟨?_, rfl, rs₁, h₁, h₂, hs⟩, rfl, fun _ => trivial⟩) ?_
      · exact (h₁.keyed hk).name_get domain
      · refine fun rs₂ fault h₂ rs₃ answer rs₄ h₃ h₄ => .inl ⟨rfl, fun h => ?_⟩
        exact Issues.pushError_ne _ _ (Except.ok.inj h)
    · exact fun h => Issues.pushWarning_ne _ _ (Except.ok.inj h)
    · exact fun h => Issues.pushError_ne _ _ (Except.ok.inj h)
  exact hremove.map fun answer h => by cases h; rfl

namespace Records.RemovalDue

variable {l : PreloadList} {start rs : Records} {domain : String} {r : Record}

lemma getElem?_put (h : RemovalDue l start domain rs r) : (rs.put r)[domain]? = some r := by
  rw [Records.getElem?_put, if_pos h.name]

lemma status_start (h : RemovalDue l start domain rs r) (heq : rs[domain]? = start[domain]?) :
    (start.get domain).status = .preloaded ∨ (start.get domain).status = .pending := by
  obtain ⟨rs₁, h₁, h₂, hs⟩ := h.read
  rwa [get_congr (h₁.eq_between h₂ heq)] at hs

lemma leaving (h : RemovalDue l start domain rs r) {batch : List Record}
    (hbatch : ∀ x ∈ batch, x.name = domain → l.first? domain = none ∧ x.status = .rejected) :
    ((rs.put r).putAll batch).Leaving l domain := by
  rcases putAll_cases (rs.put r) batch domain with hsame | ⟨x, hx, hname, hg⟩
  · refine .inl ?_
    rw [get_of_some (hsame.trans h.getElem?_put), h.status]
  · obtain ⟨hn, hs⟩ := hbatch x hx hname
    exact .inr ⟨hn, by rw [get_of_some hg, hs]⟩

lemma of_mem_begun (h : RemovalDue l start domain rs r) (hk : rs.Keyed) {x : Record}
    (hx : x ∈ Registry.Position.begun.left l (rs.put r)) (hname : x.name = domain) :
    l.first? domain = none ∧ x.status = .rejected := by
  have hd := (Plan.mem_updates_ofRecords l (hk.put r) x).mp hx
  rw [hname, get_of_some h.getElem?_put] at hd
  exact Record.onReconcile_pendingRemoval h.status hd

lemma mem_withStatus (h : RemovalDue l start domain rs r) (hk : rs.Keyed) :
    r ∈ (rs.put r).withStatus .pendingRemoval := by
  rw [(hk.put r).mem_withStatus, h.name]
  exact ⟨h.getElem?_put, h.status⟩

/-- An update that has only asked for the preloaded records will learn of the removal, though it
may also have the domain down as gone from the list. -/
lemma of_mem_toldPreloaded (h : RemovalDue l start domain rs r) (hk : rs.Keyed) {x : Record}
    (hx : x ∈ (Registry.Position.toldPreloaded (rs.withStatus .preloaded)).left l (rs.put r))
    (hname : x.name = domain) :
    l.first? domain = none ∧ (x.status = .rejected ∨ (rs.get domain).status = .preloaded) := by
  obtain ⟨e, he, hnot, rfl⟩ | ⟨hs, hd⟩ | ⟨hs, hd⟩ := Plan.of_mem_updates l _ hk (hk.put r) hx
  · refine (hnot ?_).elim
    rw [List.map_append, List.map_append]
    refine List.mem_append_left _ (List.mem_append_right _ ?_)
    exact List.mem_map.mpr ⟨r, h.mem_withStatus hk, h.name.trans hname.symm⟩
  · rw [hname] at hs hd
    refine ⟨?_, .inr hs⟩
    obtain ⟨e, -, ht, -⟩ | ⟨hn, -, -⟩ | ⟨hn, -, -⟩ := Record.onReconcile_cases hd
    · exact (ht (.inl hs)).elim
    · exact hn
    · exact hn
  · rw [hname] at hs hd
    obtain ⟨hn, hrejected⟩ := Record.onReconcile_pendingRemoval hs hd
    exact ⟨hn, .inl hrejected⟩

/-- If such an update writes all of its plan, the rejection is what it writes last. -/
lemma leaving_of_toldPreloaded (h : RemovalDue l start domain rs r) (hk : rs.Keyed)
    (hn : l.first? domain = none) {preloaded : List Record} :
    ((rs.put r).putAll
      ((Registry.Position.toldPreloaded preloaded).left l (rs.put r))).Leaving l domain := by
  have hrejected : ∀ x, x ∈ ((rs.put r).withStatus .pendingRemoval).filterMap (Plan.due? l) →
      x.name = domain → x.status = .rejected := by
    intro x hx hname
    obtain ⟨hs, hd⟩ := (Plan.mem_filterMap_due l (hk.put r) (by decide) x).mp hx
    exact (Record.onReconcile_pendingRemoval hs hd).2
  have hmem : domain ∈
      (((rs.put r).withStatus .pendingRemoval).filterMap (Plan.due? l)).map Record.name := by
    have hd : r.onReconcile (l.first? r.name) =
        .transition { r with status := .rejected, message := Record.selfRejectedMessage } := by
      simp only [Record.onReconcile, h.name, hn, h.status]
    have hdue := List.mem_filterMap.mpr ⟨r, h.mem_withStatus hk, Plan.due?_eq_some.mpr hd⟩
    exact List.mem_map.mpr ⟨_, hdue, h.name⟩
  rw [Registry.Position.left, Plan.updates, putAll_append, Plan.selfRejected_build]
  obtain ⟨x, hx, hname, hg⟩ := exists_getElem?_putAll ((rs.put r).putAll _) _ domain hmem
  exact .inr ⟨hn, by rw [get_of_some hg, hrejected x hx hname]⟩

/-- An update that has asked for the removals too early has only down for the domain what it was
due to write from the start. -/
lemma of_mem_toldRemovals (h : RemovalDue l rs domain rs r) (hk : rs.Keyed) {x : Record}
    (hx : x ∈ (Registry.Position.toldRemovals (rs.withStatus .preloaded)
      (rs.withStatus .pendingRemoval)).left l (rs.put r)) (hname : x.name = domain) :
    rs.Contested l domain := by
  have hstart := h.status_start rfl
  obtain ⟨e, he, hnot, rfl⟩ | ⟨-, hd⟩ | ⟨-, hd⟩ := Plan.of_mem_updates l _ hk hk hx
  · rw [Entry.name_record] at hname
    subst hname
    refine contested_of_transition hstart ((hk.not_tracked_iff he).mp ?_)
    rw [List.map_append, List.map_append, List.mem_append, List.mem_append, not_or, not_or,
      hk.mem_names_withStatus (by decide)] at hnot
    -- the third query cannot bring the record either, as the request has seen it pending
    rw [hstart.resolve_left hnot.1.1]
    decide
  · rw [hname] at hd
    exact contested_of_transition hstart hd
  · rw [hname] at hd
    exact contested_of_transition hstart hd

lemma of_mem_planned (hk : start.Keyed) {written left : List Record}
    (h : RemovalDue l start domain (start.putAll written) r)
    (hupdates : (Plan.ofRecords l start).updates = written ++ left) {x : Record} (hx : x ∈ left)
    (hname : x.name = domain) : start.Contested l domain := by
  have hmem : x ∈ (Plan.ofRecords l start).updates := hupdates ▸ List.mem_append_right _ hx
  have hd := (Plan.mem_updates_ofRecords l hk x).mp hmem
  rw [hname] at hd
  refine contested_of_transition (h.status_start ?_) hd
  refine getElem?_putAll_of_notMem _ _ _ fun hwritten => ?_
  -- a plan names each record once
  have hnodup := Plan.nodup_updates_ofRecords l hk
  rw [hupdates, List.map_append, List.nodup_append] at hnodup
  exact hnodup.2.2 _ hwritten _ (List.mem_map_of_mem hx) hname.symm

variable {p : Registry.Position} {written unwritten : List Record}

lemma leaving_written (h : RemovalDue l start domain rs r) (hk : start.Keyed)
    (hp : p.Undisturbed l start rs) (hleft : p.left l (rs.put r) = written ++ unwritten)
    (hsafe : ¬start.Contested l domain ∨ p = .begun ∨ ∃ preloaded, p = .toldPreloaded preloaded ∧
      ((l.first? domain).isSome ∨ unwritten = [])) :
    ((rs.put r).putAll written).Leaving l domain := by
  have hkeyed : rs.Keyed := (hp.advances hk).keyed hk
  have hsub : ∀ x ∈ written, x ∈ p.left l (rs.put r) := fun x hx =>
    hleft ▸ List.mem_append_left _ hx
  cases p with
  | begun => exact h.leaving fun x hx hname => h.of_mem_begun hkeyed (hsub x hx) hname
  | toldPreloaded preloaded =>
    obtain ⟨rfl, rfl⟩ := hp
    cases hn : l.first? domain with
    | some e =>
      -- the second query brings the domain, so a listed one is left alone
      refine h.leaving fun x hx hname => ?_
      obtain ⟨hn', -⟩ := h.of_mem_toldPreloaded hk (hsub x hx) hname
      rw [hn] at hn'
      cases hn'
    | none =>
      rcases hsafe with huncontested | hbegun | ⟨_, -, hlisted | rfl⟩
      · refine h.leaving fun x hx hname => ⟨hn, ?_⟩
        obtain ⟨-, hs⟩ := h.of_mem_toldPreloaded hk (hsub x hx) hname
        exact hs.resolve_right fun hs => huncontested (.inr ⟨hs, hn⟩)
      · cases hbegun
      · rw [hn] at hlisted
        cases hlisted
      · rw [List.append_nil] at hleft
        rw [← hleft]
        exact h.leaving_of_toldPreloaded hk hn
  | toldRemovals preloaded removals =>
    obtain ⟨rfl, rfl, rfl⟩ := hp
    have huncontested : ¬rs.Contested l domain := by simpa using hsafe
    refine h.leaving fun x hx hname => (huncontested ?_).elim
    exact h.of_mem_toldRemovals hk (hsub x hx) hname
  | planned left =>
    obtain ⟨before, hupdates, rfl⟩ := hp
    have huncontested : ¬start.Contested l domain := by simpa using hsafe
    refine h.leaving fun x hx hname => (huncontested ?_).elim
    exact of_mem_planned hk h hupdates (hsub x hx) hname

lemma leaving_or_overtaken (h : RemovalDue l start domain rs r) (hp : p.Undisturbed l start rs)
    (hleft : p.left l (rs.put r) = written ++ unwritten) :
    ((rs.put r).putAll written).Leaving l domain ∨
      ((rs.put r).putAll written).Overtaken l domain := by
  rcases putAll_cases (rs.put r) written domain with hsame | ⟨x, hx, rfl, hg⟩
  · refine .inl (.inl ?_)
    rw [get_of_some (hsame.trans h.getElem?_put), h.status]
  · have hx' : x ∈ p.left l (rs.put r) := hleft ▸ List.mem_append_left _ hx
    obtain ⟨e, he, rfl⟩ | ⟨hn, hs | hs⟩ := hp.mem_left_cases hx'
    · exact .inr (.inl ⟨e, he, hg⟩)
    · exact .inr (.inr ⟨hn, by rw [get_of_some hg, hs]⟩)
    · exact .inl (.inr ⟨hn, by rw [get_of_some hg, hs]⟩)

end Records.RemovalDue

namespace Registry

variable {σ : Type} [RecordStore σ] [LawfulStore σ]

/-- The moment in a run from `x` to `y` at which a program beside an update saves a record. Until
then only the update has been writing, and from then on it is again. -/
structure Moment (reg : Registry) (l : PreloadList) (due : Records → Record → Prop)
    (x y : World σ × List (Program Reply)) where
  before : World σ
  after : World σ
  update : Program Reply
  position : Position
  saving : Program Reply
  saved : Program Reply
  record : Record
  start : Relation.ReflTransGen World.Interleaved x (before, [update, saving])
  saves : Saves record (before, saving) (after, saved)
  finish : Relation.ReflTransGen World.Interleaved (after, [update, saved]) y
  stands : position.Of reg l update
  undisturbed : position.Undisturbed l x.1.records before.records
  due : due before.records record
  records_after : after.records = before.records.put record
  settled : saved.Settled fun _ => True

/-- Beside an update, a program that owes a record goes on to owe it, or has saved it at some
moment. -/
lemma owes_or_moment {reg : Registry} (hb : reg.Batched) {l : PreloadList}
    (hl : reg.list = .ok l) {w : World σ} (hk : w.records.Keyed) {q : Program Reply}
    {due : Records → Record → Prop} {post : Reply → Prop}
    (hq : q.Owes (Records.Advances l) due post w.records)
    {y : World σ × List (Program Reply)}
    (hs : Relation.ReflTransGen World.Interleaved (w, [Operation.update.program reg, q]) y) :
    (∃ w₁ u q₁ p, y = (w₁, [u, q₁]) ∧ Position.Of reg l u p ∧
      p.Undisturbed l w.records w₁.records ∧
        q₁.Owes (Records.Advances l) due post w₁.records) ∨
    Nonempty (Moment reg l due (w, [Operation.update.program reg, q]) y) := by
  induction hs with
  | refl => exact .inl ⟨w, _, q, .begun, rfl, rfl, rfl, hq⟩
  | @tail y z hbefore hone ih =>
    rcases ih with ⟨w₁, u, q₁, p, rfl, hof, hundisturbed, howes⟩ | ⟨⟨m⟩⟩
    · obtain ⟨w₂, threads⟩ := z
      obtain ⟨u', rfl, hstep⟩ | ⟨q₂, rfl, hstep⟩ := hone.cases_pair
      · obtain ⟨p', now, hof', hleft, hr, hundisturbed'⟩ := p.step hb hl hstep hof
        refine .inl ⟨w₂, u', q₁, p', rfl, hof', hundisturbed' _ hundisturbed, ?_⟩
        refine howes.of_later (fun h h' => h.trans h') ?_
        rw [hr]
        exact hundisturbed.advances_putAll hk hleft
      · obtain ⟨hr, howes'⟩ | ⟨r, hdue, hsaves, hr, hsettled⟩ :=
          howes.step (Records.Advances.refl l) hstep
        · exact .inl ⟨w₂, u, q₂, p, rfl, hof, hr ▸ hundisturbed, howes'⟩
        · exact .inr ⟨⟨w₁, w₂, u, p, q₁, q₂, r, hbefore, hsaves, .refl, hof, hundisturbed, hdue,
            hr, hsettled⟩⟩
    · exact .inr ⟨{ m with finish := m.finish.tail hone }⟩

/-- In a run of two programs from `x` to `y` the second one saves a record, in one step, while
`u` is left of the first. -/
def SavedWhile (x y : World σ × List (Program Reply)) (r : Record) (u : Program Reply) : Prop :=
  ∃ w₁ w₂ q q', Relation.ReflTransGen World.Interleaved x (w₁, [u, q]) ∧
    Saves r (w₁, q) (w₂, q') ∧ Relation.ReflTransGen World.Interleaved (w₂, [u, q']) y

/-- A removal request beside a running update, over a store whose failures come and go, where the
request has nothing to report. If the update was not due to change the record when both began,
the removal lasts, or ends as a rejection when the domain is not on the list. Otherwise it does
so if it is stored before the update asks for the preloaded records, or before it asks for the
removals, provided that the domain is listed or the update succeeds, or when the update has no
record of the domain left to write. In all other cases the update may overwrite it with what it
had planned for the domain, and with nothing else. -/
theorem removal_beside_update {reg reg' : Registry} (hb : reg.Batched) (hb' : reg'.Batched)
    {l : PreloadList} (hl : reg.list = .ok l) {w w' : World σ} (hk : w.records.Keyed)
    {domain : String} {report : UpdateReport}
    (hrun : Relation.ReflTransGen World.Interleaved
      (w, [Operation.update.program reg, (Operation.remove domain).program reg'])
      (w', [.done (.updated report), .done (.decided (.ok {}))])) :
    (¬w.records.Contested l domain → w'.records.Leaving l domain) ∧
    (w'.records.Leaving l domain ∨ w'.records.Overtaken l domain) ∧
    ∃ r u, r.name = domain ∧ r.status = .pendingRemoval ∧
      SavedWhile (w, [Operation.update.program reg, (Operation.remove domain).program reg'])
        (w', [.done (.updated report), .done (.decided (.ok {}))]) r u ∧
      (u.Asks .preloaded ∨
        u.Asks .pendingRemoval ∧ ((l.first? domain).isSome ∨ ∃ n, report.outcome = .ok n) ∨
        u.Uses (Access.Spares domain) → w'.records.Leaving l domain) := by
  obtain ⟨w₁, u, q₁, p, hy, -, -, howes⟩ | ⟨⟨m⟩⟩ :=
    owes_or_moment hb hl hk (owes_remove hb' l domain hk) hrun
  · cases hy
    exact (howes rfl).elim
  have hdue := m.due
  obtain ⟨written, unwritten, hleft, hw', hall⟩ := m.stands.written hb hl m.settled m.finish
  rw [m.records_after] at hleft hw'
  have hleaving : ¬w.records.Contested l domain ∨ m.position = .begun ∨
      (∃ preloaded, m.position = .toldPreloaded preloaded ∧
        ((l.first? domain).isSome ∨ unwritten = [])) → w'.records.Leaving l domain := by
    rw [hw']
    exact hdue.leaving_written hk m.undisturbed hleft
  refine ⟨fun huncontested => hleaving (.inl huncontested), ?_, m.record, m.update, hdue.name,
    hdue.status, ⟨_, _, _, _, m.start, m.saves, m.finish⟩, ?_⟩
  · rw [hw']
    exact hdue.leaving_or_overtaken m.undisturbed hleft
  rintro (hasks | ⟨hasks, hsafe⟩ | hspares)
  · obtain ⟨hp, -⟩ | ⟨_, -, hs⟩ | hs := m.stands.asks hl hasks
    · exact hleaving (.inr (.inl hp))
    · cases hs
    · cases hs
  · obtain ⟨-, hs⟩ | ⟨preloaded, hp, -⟩ | hs := m.stands.asks hl hasks
    · cases hs
    · refine hleaving (.inr (.inr ⟨preloaded, hp, hsafe.imp_right ?_⟩))
      rintro ⟨n, hn⟩
      exact hall ⟨report, n, rfl, hn⟩
    · cases hs
  · have hkept : w'.records[domain]? = m.after.records[domain]? ∧
        (Program.done (Reply.updated report)).Uses (Access.Spares domain) := by
      refine m.settled.beside (P := fun rs v => rs[domain]? = m.after.records[domain]? ∧
        v.Uses (Access.Spares domain)) ?_ ⟨rfl, hspares⟩ m.finish
      rintro w₁ w₂ v v' hstep ⟨hsame, huses⟩
      exact (Uses.step_spares hstep huses).imp_left fun h => h.trans hsame
    refine .inl ?_
    rw [m.records_after] at hkept
    rw [Records.get_of_some (hkept.1.trans hdue.getElem?_put), hdue.status]

end Registry

namespace Overtaking

open Registry

def enforced : PreloadList := ⟨[⟨"d.example", .bulk1Year, .forceHttps, true⟩]⟩

/-- An update and a removal request are about to begin while the store holds one record. -/
def start (l : PreloadList) (r : Record) : World MemoryStore × List (Program Reply) :=
  (.holding [r], [Operation.update.program (.listing l),
    (Operation.remove "d.example").program (.listing l)])

/-- The removal is stored after the update has asked its questions. -/
def asked (l : PreloadList) (r : Record) : World MemoryStore × List (Program Reply) :=
  [0, 0, 0, 1, 1, 1].foldl World.turn (start l r)

/-- Then the update writes its plan. -/
def finished (l : PreloadList) (r : Record) : World MemoryStore × List (Program Reply) :=
  [0, 0].foldl World.turn (asked l r)

def pending : Record :=
  ⟨"d.example", .pending, "", some ⟨0, 0⟩, true, .bulk1Year⟩

def preloaded : Record :=
  { pending with status := .preloaded }

lemma reaches_asked (l : PreloadList) (r : Record) :
    Relation.ReflTransGen World.Interleaved (start l r) (asked l r) :=
  World.reaches_foldl_turn _ _ (by simp [start])

lemma reaches_finished (l : PreloadList) (r : Record) :
    Relation.ReflTransGen World.Interleaved (asked l r) (finished l r) := by
  refine World.reaches_foldl_turn _ _ fun i hi => ?_
  rw [asked, World.length_foldl_turn]
  simp_all [start]

/-- A removal that was stored, with nothing to report, and in the end the record has the
status `s`. -/
structure Overtakes (l : PreloadList) (r : Record) (s : Status) : Prop where
  before : Relation.ReflTransGen World.Interleaved (start l r) (asked l r)
  stored : ((asked l r).1.records.get "d.example").status = .pendingRemoval
  after : Relation.ReflTransGen World.Interleaved (asked l r) (finished l r)
  replies : ∃ report, (finished l r).2 = [.done (.updated report), .done (.decided (.ok {}))]
  status : ((finished l r).1.records.get "d.example").status = s

theorem removal_overtaken :
    (Overtakes enforced pending .preloaded ∧
      ¬(finished enforced pending).1.records.Leaving enforced "d.example") ∧
    (Overtakes ⟨[]⟩ preloaded .removed ∧
      ¬(finished ⟨[]⟩ preloaded).1.records.Leaving ⟨[]⟩ "d.example") := by
  have hlisted : Overtakes enforced pending .preloaded :=
    ⟨reaches_asked _ _, rfl, reaches_finished _ _, ⟨_, rfl⟩, rfl⟩
  have hdelisted : Overtakes ⟨[]⟩ preloaded .removed :=
    ⟨reaches_asked _ _, rfl, reaches_finished _ _, ⟨_, rfl⟩, rfl⟩
  refine ⟨⟨hlisted, ?_⟩, hdelisted, ?_⟩
  · rw [Records.Leaving, hlisted.status]
    decide
  · rw [Records.Leaving, hdelisted.status]
    decide

theorem listed_removal_lasts :
    (∃ report, (finished enforced preloaded).2 =
      [.done (.updated report), .done (.decided (.ok {}))]) ∧
    (finished enforced preloaded).1.records.Leaving enforced "d.example" := by
  have hfinished : ∃ report, finished enforced preloaded = ((finished enforced preloaded).1,
      [.done (.updated report), .done (.decided (.ok {}))]) := ⟨_, rfl⟩
  have hrun := (reaches_asked enforced preloaded).trans (reaches_finished enforced preloaded)
  obtain ⟨report, hreport⟩ := hfinished
  rw [hreport] at hrun
  have hb : (Registry.listing enforced).Batched := rfl
  have huncontested : ¬(start enforced preloaded).1.records.Contested enforced "d.example" := by
    have hstatus : ((start enforced preloaded).1.records.get "d.example").status = .preloaded :=
      rfl
    rw [Records.Contested, hstatus]
    decide
  refine ⟨⟨report, congrArg Prod.snd hreport⟩, ?_⟩
  exact (removal_beside_update hb hb rfl (World.keyed_holding _) hrun).1 huncontested

end Overtaking

end HstsPreload
