import HstsPreload.Proofs.Routing

/-!
# Requests about different domains

Over a store that works, a request to change the record of a domain is answered by what that one
record says, and stores nothing under another name. So two requests about different domains may
be made in either order.
-/

namespace HstsPreload

open Program Web

namespace Records

lemma put_comm_of_ne (rs : Records) {a b : Record} (h : a.name ≠ b.name) :
    (rs.put a).put b = (rs.put b).put a := by
  refine Std.ExtTreeMap.ext_getElem? fun name => ?_
  simp only [getElem?_put]
  by_cases ha : a.name = name
  · rw [if_pos ha, if_neg fun hb => h (ha.trans hb.symm), if_pos ha]
  · rw [if_neg ha, if_neg ha]

/-- The records after one of them may have been written. -/
def putAny (rs : Records) (r : Option Record) : Records :=
  r.elim rs rs.put

lemma Keyed.putAny {rs : Records} (h : rs.Keyed) (r : Option Record) : (rs.putAny r).Keyed := by
  cases r with
  | none => exact h
  | some r => exact h.put r

lemma get_putAny_of_ne (rs : Records) {r : Option Record} {name : String}
    (h : ∀ next, r = some next → next.name ≠ name) : (rs.putAny r).get name = rs.get name := by
  cases r with
  | none => rfl
  | some r =>
    refine get_congr ?_
    change (rs.put r)[name]? = rs[name]?
    rw [getElem?_put, if_neg (h r rfl)]

lemma putAny_comm (rs : Records) {r r' : Option Record}
    (h : ∀ a b, r = some a → r' = some b → a.name ≠ b.name) :
    (rs.putAny r).putAny r' = (rs.putAny r').putAny r := by
  cases r with
  | none => rfl
  | some a =>
    cases r' with
    | none => rfl
    | some b => exact rs.put_comm_of_ne (h a b rfl rfl)

end Records

/-- What a request comes to: the answer, and the record that is stored, if any. -/
structure Outcome (α : Type) where
  answer : α
  stored : Option Record := none

def Outcome.told {α β : Type} (f : α → β) (o : Outcome α) : Outcome β where
  answer := f o.answer
  stored := o.stored

/-- Over any store that works, what a program comes to depends on the record of one domain, and
it stores nothing under another name. -/
structure Program.Local (σ : Type) [RecordStore σ] [LawfulStore σ] {α : Type} (p : Program α)
    (domain : String) (f : Record → Outcome α) : Prop where
  stays : ∀ r next, r.name = domain → (f r).stored = some next → next.name = domain
  runs : ∀ w : World σ, LawfulStore.Works w.store →
    (w.run p).1 = (f (w.records.get domain)).answer ∧
    (w.run p).2.records = w.records.putAny (f (w.records.get domain)).stored ∧
    LawfulStore.Works (w.run p).2.store

variable {σ : Type} [RecordStore σ] [LawfulStore σ]

namespace Program.Local

variable {α β : Type} {p : Program α} {q : Program β} {domain domain' : String}
  {f : Record → Outcome α} {g : Record → Outcome β}

lemma told (h : p.Local σ domain f) (tell : α → β) :
    (p >>= fun a => pure (tell a)).Local σ domain fun r => (f r).told tell where
  stays := h.stays
  runs w hworks := by
    obtain ⟨hanswer, hrecords, hstill⟩ := h.runs w hworks
    rw [World.run_bind]
    exact ⟨congrArg tell hanswer, hrecords, hstill⟩

lemma get_other (hp : p.Local σ domain f) (hne : domain ≠ domain') {w : World σ}
    (hworks : LawfulStore.Works w.store) (hk : w.records.Keyed) :
    (w.run p).2.records.get domain' = w.records.get domain' := by
  rw [(hp.runs w hworks).2.1]
  refine w.records.get_putAny_of_ne fun next hnext hname => hne ?_
  rw [← hp.stays _ next (hk.name_get domain) hnext, hname]

/-- Programs about different domains may run in either order. -/
theorem commute (hp : p.Local σ domain f) (hq : q.Local σ domain' g) (hne : domain ≠ domain')
    {w : World σ} (hworks : LawfulStore.Works w.store) (hk : w.records.Keyed) :
    (w.run p).1 = ((w.run q).2.run p).1 ∧ ((w.run p).2.run q).1 = (w.run q).1 ∧
      ((w.run p).2.run q).2.records = ((w.run q).2.run p).2.records := by
  obtain ⟨hpa, hpr, hpw⟩ := hp.runs w hworks
  obtain ⟨hqa, hqr, hqw⟩ := hq.runs w hworks
  obtain ⟨hpa', hpr', -⟩ := hp.runs _ hqw
  obtain ⟨hqa', hqr', -⟩ := hq.runs _ hpw
  rw [hq.get_other hne.symm hworks hk] at hpa' hpr'
  rw [hp.get_other hne hworks hk] at hqa' hqr'
  refine ⟨hpa.trans hpa'.symm, hqa'.trans hqa.symm, ?_⟩
  rw [hqr', hpr, hpr', hqr]
  refine w.records.putAny_comm fun a b ha hb hab => hne ?_
  rw [← hp.stays _ a (hk.name_get domain) ha, ← hq.stays _ b (hk.name_get domain') hb, hab]

end Program.Local

namespace Registry

variable {reg : Registry} {w : World σ}

/-- What a submission comes to when the domain has the record `r`. -/
def submission (reg : Registry) (domain : String) (r : Record) :
    Outcome (Except RegistryFault Issues) :=
  let issues := reg.scanner.preloadable domain
  match r.onSubmit (!issues.hasErrors) reg.now with
  | .accept next => ⟨.ok issues, some next⟩
  | .alreadyListed reason => ⟨.ok (issues.pushWarning reason), none⟩
  | .reject => ⟨.ok issues, none⟩

/-- What a removal request comes to when the domain has the record `r`. -/
def removal (reg : Registry) (domain : String) (r : Record) :
    Outcome (Except RegistryFault Issues) :=
  let issues := reg.scanner.removable domain
  if issues.hasErrors then ⟨.ok issues, none⟩
  else
    match r.onRemove reg.now with
    | .accept next => ⟨.ok issues, some next⟩
    | .unneeded reason => ⟨.ok (issues.pushWarning reason), none⟩
    | .refuse reason => ⟨.ok (issues.pushError reason), none⟩

lemma run_load_of_works (h : LawfulStore.Works w.store) (domain : String) :
    w.run (access (.load domain)) = (.ok (w.records.get domain), w) := by
  obtain ⟨r, hr⟩ := LawfulStore.find_works domain h
  change (RecordStore.find w.store domain, w) = _
  rw [hr, LawfulStore.find_ok hr]
  rfl

lemma local_persist (hb : reg.Batched) (r : Record) :
    (reg.persist r).Local σ r.name fun _ => ⟨.ok (), some r⟩ where
  stays _ _ _ hnext := Option.some.inj hnext ▸ rfl
  runs w hworks := by
    obtain ⟨hok, hstill⟩ := LawfulStore.write_works [r] hworks
    have hanswer : (w.run (access (.commit [r]))).1 = .ok () := hok
    unfold persist
    rw [hb]
    change (w.run (access (.commit [r]) >>= _)).1 = _ ∧
      (w.run (access (.commit [r]) >>= _)).2.records = _ ∧
      LawfulStore.Works (w.run (access (.commit [r]) >>= _)).2.store
    rw [World.run_bind, hanswer]
    exact ⟨rfl, LawfulStore.write_ok hok, hstill⟩

lemma local_submit (hb : reg.Batched) (domain : String) :
    (reg.submit domain).Local σ domain (reg.submission domain) where
  stays r next hr hnext := by
    unfold submission at hnext
    dsimp only at hnext
    split at hnext
    · next next' haccept =>
      cases hnext
      rw [(Record.onSubmit_accept haccept).1]
      exact hr
    · cases hnext
    · cases hnext
  runs w hworks := by
    unfold submit submission
    dsimp only
    cases hclean : (reg.scanner.preloadable domain).hasErrors with
    | true =>
      rw [if_pos rfl, World.run_bind, run_load_of_works hworks]
      simp only [Bool.not_true]
      cases hd : (w.records.get domain).onSubmit false reg.now with
      | accept next => cases (Record.onSubmit_accept hd).2.1
      | alreadyListed reason => exact ⟨rfl, rfl, hworks⟩
      | reject => exact ⟨rfl, rfl, hworks⟩
    | false =>
      rw [if_neg Bool.false_ne_true, World.run_bind, run_load_of_works hworks]
      simp only [Bool.not_false]
      cases (w.records.get domain).onSubmit true reg.now with
      | accept next =>
        obtain ⟨hanswer, hrecords, hstill⟩ := (local_persist hb next).runs w hworks
        rw [World.run_bind, hanswer]
        exact ⟨rfl, hrecords, hstill⟩
      | alreadyListed reason => exact ⟨rfl, rfl, hworks⟩
      | reject => exact ⟨rfl, rfl, hworks⟩

lemma local_remove (hb : reg.Batched) (domain : String) :
    (reg.remove domain).Local σ domain (reg.removal domain) where
  stays r next hr hnext := by
    unfold removal at hnext
    dsimp only at hnext
    split at hnext
    · cases hnext
    · split at hnext
      · next next' haccept =>
        cases hnext
        rw [(Record.onRemove_accept haccept).1]
        exact hr
      · cases hnext
      · cases hnext
  runs w hworks := by
    unfold remove removal
    dsimp only
    cases hclean : (reg.scanner.removable domain).hasErrors with
    | true => exact ⟨rfl, rfl, hworks⟩
    | false =>
      rw [if_neg Bool.false_ne_true, World.run_bind, run_load_of_works hworks]
      dsimp only
      cases (w.records.get domain).onRemove reg.now with
      | accept next =>
        obtain ⟨hanswer, hrecords, hstill⟩ := (local_persist hb next).runs w hworks
        rw [World.run_bind, hanswer]
        exact ⟨rfl, hrecords, hstill⟩
      | unneeded reason => exact ⟨rfl, rfl, hworks⟩
      | refuse reason => exact ⟨rfl, rfl, hworks⟩

lemma local_setPreloaded (hb : reg.Batched) (domain : String) :
    (reg.setPreloaded domain).Local σ domain
      fun _ => ⟨{}, some { name := domain, status := .preloaded }⟩ where
  stays _ _ _ hnext := Option.some.inj hnext ▸ rfl
  runs w hworks := by
    let r : Record := { name := domain, status := .preloaded }
    obtain ⟨hanswer, hrecords, hstill⟩ := (local_persist hb r).runs w hworks
    unfold setPreloaded
    rw [World.run_bind, hanswer]
    exact ⟨rfl, hrecords, hstill⟩

end Registry

variable (σ) in
lemma Operation.exists_local {reg : Registry} (hb : reg.Batched) {op : Operation}
    {domain : String} (h : op.domain? = some domain) :
    ∃ f, (op.program reg).Local σ domain f := by
  cases op with
  | submit d => cases h; exact ⟨_, (Registry.local_submit hb domain).told Reply.decided⟩
  | remove d => cases h; exact ⟨_, (Registry.local_remove hb domain).told Reply.decided⟩
  | setPreloaded d => cases h; exact ⟨_, (Registry.local_setPreloaded hb domain).told Reply.set⟩
  | update => cases h

/-- What a request may touch. On any way, however far it gets, it changes no record, unless it asks
for one of the operations that write: then it is the record of its domain, or one that an update
may change. Where a domain is asked for and none is named that has a normal form, the response is
that the request is bad and nothing happens at all. Over a store that works, two requests about
different domains get the same responses in either order and leave the same records. -/
theorem Registry.requests_keep_apart (reg : Registry) (hb : reg.Batched) (req : Request)
    (w : World σ) (hk : w.records.Keyed) :
    (∀ (w' : World σ) (p : Program Response),
      Relation.ReflTransGen World.Step (w, reg.respond req) (w', p) →
      ∀ name : String, w'.records[name]? ≠ w.records[name]? → ∃ op, reg.Asks req op ∧
        (op.domain? = some name ∨ op = .update ∧ reg.MayReconcile w.records name)) ∧
    (∀ r : Route, reg.Meets req r → r.takesDomain = true → (∀ domain, ¬req.Names domain) →
      ∃ response : Response, response.status = 400 ∧ w.run (reg.respond req) = (response, w)) ∧
    ∀ (reg' : Registry) (req' : Request) (op op' : Operation) (domain domain' : String),
      LawfulStore.Works w.store → reg'.Batched → reg.Asks req op → reg'.Asks req' op' →
      op.domain? = some domain → op'.domain? = some domain' → domain ≠ domain' →
      let first := w.run (reg.respond req)
      let second := first.2.run (reg'.respond req')
      let first' := w.run (reg'.respond req')
      let second' := first'.2.run (reg.respond req)
      first.1 = second'.1 ∧ second.1 = first'.1 ∧ second.2.records = second'.2.records := by
  refine ⟨fun w' p hs name hc => changes_only_asked hb hk hs hc, ?_, ?_⟩
  · intro r hmeets htakes hnone
    obtain ⟨response, hbad, heq⟩ := respond_of_unnamed hmeets htakes hnone
    exact ⟨response, hbad, by rw [heq]; rfl⟩
  · intro reg' req' op op' domain domain' hworks hb' hasks hasks' hdomain hdomain' hne
    obtain ⟨told, heq⟩ := respond_of_asks hasks
    obtain ⟨told', heq'⟩ := respond_of_asks hasks'
    obtain ⟨f, hlocal⟩ := Operation.exists_local σ hb hdomain
    obtain ⟨g, hlocal'⟩ := Operation.exists_local σ hb' hdomain'
    rw [heq, heq']
    exact (hlocal.told _).commute (hlocal'.told _) hne hworks hk

theorem Registry.removal_beside_submission :
    let reg := Registry.listing ⟨[]⟩
    let w : World MemoryStore := .holding [{ name := "[::1]", status := .preloaded }]
    let leave : Request := { method := "POST", path := "/remove", query := "domain=[::1]".toList }
    let join : Request := { method := "POST", path := "/submit", query := "domain=[::2]".toList }
    let idle : Request := { method := "POST", path := "/submit" }
    let left := w.run (reg.respond leave)
    let joined := w.run (reg.respond join)
    left.1 = (joined.2.run (reg.respond leave)).1 ∧
      (left.2.run (reg.respond join)).2.records = (joined.2.run (reg.respond leave)).2.records ∧
      (left.2.records.get "[::1]").status = .pendingRemoval ∧
      (w.run (reg.respond idle)).1.status = 400 := by
  intro reg w leave join idle left joined
  have hleave : reg.Asks leave (.remove "[::1]") := .remove rfl rfl ⟨"[::1]", rfl, rfl⟩
  have hjoin : reg.Asks join (.submit "[::2]") := .submit rfl rfl ⟨"[::2]", rfl, rfl⟩
  have hk : w.records.Keyed := World.keyed_holding _
  obtain ⟨-, -, hapart⟩ := requests_keep_apart reg rfl leave w hk
  obtain ⟨hanswer, -, hrecords⟩ := hapart reg join _ _ _ _ (World.works_holding _) rfl hleave
    hjoin rfl rfl (by decide)
  obtain ⟨-, hbad, -⟩ := requests_keep_apart reg rfl idle w hk
  obtain ⟨response, hstatus, hresponse⟩ := hbad .submit ⟨rfl, rfl⟩ rfl (by
    rintro domain ⟨raw, hraw, -⟩
    cases hraw)
  exact ⟨hanswer, hrecords, by decide, by rw [hresponse]; exact hstatus⟩

end HstsPreload
