import HstsPreload.Proofs.History
import HstsPreload.Registry.Routes

/-!
# What a request may change

Every request either asks for one of the operations that write, or it is answered by a program
that writes nothing. From this follows which records a request may change: that of the domain it
names, or, for an update, those that the list and the records themselves give reason to change.
-/

namespace HstsPreload

open Program Web

namespace Program

variable {α β : Type} {post : α → Prop}

instance : LawfulMonad Program :=
  .mk' Program
    (fun p => by
      induction p with
      | done a => rfl
      | step a next ih => exact congrArg (step a) (funext fun answer => ih answer))
    (fun _ _ => rfl)
    (fun p f g => by
      induction p with
      | done a => rfl
      | step a next ih => exact congrArg (step a) (funext fun answer => ih answer))

lemma Settled.bind {mid : β → Prop} {p : Program β} {f : β → Program α} (h : p.Settled mid)
    (hf : ∀ b, mid b → (f b).Settled post) : (p >>= f).Settled post := by
  induction p with
  | done b => exact hf b h
  | step a next ih => exact ⟨h.1, fun answer => ih answer (h.2 answer)⟩

lemma Settled.keeps {p : Program α} (h : p.Settled post) (c : Contract) (rs : Records) :
    p.Keeps c (fun _ _ => True) rs := by
  induction p generalizing rs with
  | done a => exact fun _ _ => trivial
  | step a next ih =>
    rintro rs₁ answer rs₂ - ha
    have hsame : rs₂ = rs₁ := by
      cases a with
      | commit batch => cases h.1
      | load domain | loadList s | loadAll => exact ha.1
      | _ => exact ha
    rw [hsame]
    exact ⟨c.guarantee_refl rs₁, ih answer (h.2 answer) rs₁⟩

end Program

namespace Registry

lemma settled_cachedRecord (domain : String) :
    (cachedRecord domain).Settled fun _ => True := by
  refine ⟨rfl, fun cached => ?_⟩
  cases cached with
  | some r => trivial
  | none =>
    refine ⟨rfl, fun generation => ⟨rfl, fun loaded => ?_⟩⟩
    cases loaded with
    | error fault => trivial
    | ok r => exact ⟨rfl, fun _ => trivial⟩

lemma settled_cachedList (s : Status) : (cachedList s).Settled fun _ => True := by
  refine ⟨rfl, fun cached => ?_⟩
  cases cached with
  | some found => trivial
  | none =>
    refine ⟨rfl, fun generation => ⟨rfl, fun loaded => ?_⟩⟩
    cases loaded with
    | error fault => trivial
    | ok found => exact ⟨rfl, fun _ => trivial⟩

lemma settled_coveringAmong (candidates : List String) :
    (coveringAmong candidates).Settled fun _ => True := by
  induction candidates with
  | nil => trivial
  | cons candidate more ih =>
    refine (settled_cachedRecord candidate).bind fun answer _ => ?_
    cases answer with
    | error fault => exact ih
    | ok r =>
      dsimp only
      split
      · trivial
      · exact ih

lemma settled_status (domain : String) : (status domain).Settled fun _ => True := by
  refine (settled_cachedRecord domain).bind fun answer _ => ?_
  cases answer with
  | error fault => trivial
  | ok r =>
    dsimp only
    split
    · exact (settled_coveringAmong _).bind fun covering _ => by cases covering <;> trivial
    · split <;> trivial

lemma settled_removable (reg : Registry) (domain : String) :
    (reg.removable domain).Settled fun _ => True := by
  refine (settled_status domain).bind fun answer _ => ?_
  cases answer with
  | error fault => trivial
  | ok view =>
    dsimp only
    split
    · trivial
    · split <;> trivial

lemma settled_pending : pending.Settled fun _ => True :=
  (settled_cachedList _).bind fun _ _ => trivial

lemma settled_cachedNames (s : Status) (what : String) :
    (cachedNames s what).Settled fun _ => True :=
  (settled_cachedList s).bind fun answer _ => by cases answer <;> trivial

lemma settled_allStates : allStates.Settled fun _ => True :=
  ⟨rfl, fun _ => trivial⟩

end Registry

/-- The operation on a domain that a route stands for. -/
def Route.operation? (domain : String) : Route → Option Operation
  | .submit => some (.submit domain)
  | .remove => some (.remove domain)
  | .setPreloaded => some (.setPreloaded domain)
  | _ => none

def Route.takesDomain : Route → Bool
  | .preloadable | .removable | .status | .submit | .remove | .setPreloaded => true
  | .pending | .pendingRemoval | .pendingAutomatedRemoval | .update | .allStates => false

/-- A request that names one domain, which has a normal form. -/
def Web.Request.Names (req : Request) (domain : String) : Prop :=
  ∃ raw, req.queryValues "domain" = [raw] ∧ DomainName.normalize raw = .ok domain

namespace Registry

variable {reg : Registry} {req : Request}

lemma domainOf_eq_ok {domain : String} : domainOf req = .ok domain ↔ req.Names domain := by
  unfold domainOf Request.Names
  split
  · next h => simp [h]
  · next h => simp [h]
  · next raw h =>
    rw [h]
    by_cases hraw : raw = ""
    · subst hraw
      have hempty : DomainName.normalize "" = .error .empty := rfl
      simp [hempty]
    · rw [if_neg hraw]
      cases hn : DomainName.normalize raw <;> simp [hn]

lemma aboutDomain_of_names {domain : String} (h : req.Names domain)
    (answer : String → Program Response) : aboutDomain req answer = answer domain := by
  rw [aboutDomain, domainOf_eq_ok.mpr h]

lemma status_of_domainOf_error {response : Response} (h : domainOf req = .error response) :
    response.status = 400 := by
  unfold domainOf at h
  split at h
  · cases h; rfl
  · cases h; rfl
  · split at h
    · cases h; rfl
    · split at h
      · cases h
      · cases h; rfl

/-- A request that meets a route: the path leads there, and the method is the one it takes. -/
def Meets (reg : Registry) (req : Request) (r : Route) : Prop :=
  Route.ofPath? reg.debugEndpoints req.path = some r ∧
    if r.isPost then req.method = "POST" else req.method = "GET" ∨ req.method = "HEAD"

/-- The operations that write, with the requests for them. -/
inductive Asks (reg : Registry) (req : Request) : Operation → Prop where
  | submit {domain : String} : req.method = "POST" → req.path = "/submit" → req.Names domain →
      Asks reg req (.submit domain)
  | remove {domain : String} : req.method = "POST" → req.path = "/remove" → req.Names domain →
      Asks reg req (.remove domain)
  | setPreloaded {domain : String} : reg.debugEndpoints = true → req.method = "POST" →
      req.path = "/debug/set-preloaded" → req.Names domain → Asks reg req (.setPreloaded domain)
  | update : req.method = "GET" ∨ req.method = "HEAD" → req.path = "/update" →
      Asks reg req .update

end Registry

/-- How the response tells of an update. Only an update that came to no plan counts as a failure. -/
def UpdateReport.response (report : UpdateReport) : Response :=
  match report.outcome with
  | .ok _ | .error (.write true _) => .text 200 report.text
  | .error (.write false fault) =>
    .text 200 (report.text ++ s!"Internal error: {(UpdateFault.write true fault).message}\n")
  | .error fault => .internalError fault.message

def Reply.response : Reply → Response
  | .decided answer => Registry.issuesResponse answer
  | .set issues => Registry.jsonResponse issues.toJson
  | .updated report => report.response

namespace Registry

variable {reg : Registry} {req : Request}

/-- What the response tells of a plan that was written or not. -/
def planResponse (p : Plan) (r : UpdateReport) : Response :=
  let closing := match r.outcome with
    | .error (.write false fault) => p.closing (.error fault)
    | _ => ""
  .text 200 (p.summary ++ r.text ++ closing)

lemma planResponse_report (p : Plan) (w : Writer.Report) :
    planResponse p (p.report w) =
      UpdateReport.response ⟨p.summary ++ (p.report w).text, (p.report w).outcome⟩ := by
  have hplain : ∀ text : String, text ++ "" = text := fun text => String.append_empty
  unfold Plan.report
  cases w.outcome with
  | ok u => exact congrArg (Response.text 200) (hplain _)
  | error fault =>
    cases w.progress.isEmpty with
    | true => rfl
    | false => exact congrArg (Response.text 200) (hplain _)

lemma respondUpdate_eq (reg : Registry) :
    reg.respondUpdate = reg.update >>= fun report => pure report.response := by
  have happly : ∀ p : Plan, (reg.applyPlan p >>= fun r => pure (planResponse p r)) =
      (reg.applyPlan p >>= fun r => pure ⟨p.summary ++ r.text, r.outcome⟩) >>=
        fun report : UpdateReport => pure report.response := by
    intro p
    simp only [applyPlan, bind_assoc, pure_bind, planResponse_report]
  unfold respondUpdate update
  rw [bind_assoc]
  unfold planUpdate
  cases reg.list with
  | error fault => rfl
  | ok l =>
    refine congrArg (Program.step _) (funext fun preloaded => ?_)
    cases preloaded with
    | error fault => rfl
    | ok preloaded =>
      refine congrArg (Program.step _) (funext fun pendingRemoval => ?_)
      cases pendingRemoval with
      | error fault => rfl
      | ok pendingRemoval =>
        refine congrArg (Program.step _) (funext fun automated => ?_)
        cases automated with
        | error fault => rfl
        | ok automated => exact happly _

lemma path_of_ofPath? {debug : Bool} {path : String} {r : Route}
    (h : Route.ofPath? debug path = some r) :
    (r = .submit → path = "/submit") ∧ (r = .remove → path = "/remove") ∧
      (r = .update → path = "/update") ∧
      (r = .setPreloaded → debug = true ∧ path = "/debug/set-preloaded") := by
  unfold Route.ofPath? at h
  split at h <;> (try split at h) <;> cases h
  all_goals refine ⟨?_, ?_, ?_, ?_⟩ <;> intro hr <;> cases hr
  all_goals first | rfl | exact ⟨‹_›, rfl⟩

lemma respondTo_update (reg : Registry) (req : Request) :
    reg.respondTo req .update =
      Operation.update.program reg >>= fun reply => pure reply.response := by
  change reg.respondUpdate = _
  rw [respondUpdate_eq]
  simp only [Operation.program, bind_assoc, pure_bind, Reply.response]

lemma respondTo_post {domain : String} {r : Route} (hd : req.Names domain) {op : Operation}
    (h : r.operation? domain = some op) :
    reg.respondTo req r = op.program reg >>= fun reply => pure reply.response := by
  cases r with
  | submit | remove | setPreloaded =>
    cases h
    simp only [respondTo, aboutDomain_of_names hd, Operation.program, bind_assoc, pure_bind,
      Reply.response]
  | _ => cases h

theorem respond_of_asks {op : Operation} (h : reg.Asks req op) :
    ∃ told : Response → Response,
      reg.respond req = op.program reg >>= fun reply => pure (told reply.response) := by
  have hpost : ∀ (r : Route) (domain : String),
      Route.ofPath? reg.debugEndpoints req.path = some r → req.method = "POST" →
      req.Names domain → r.operation? domain = some op →
      reg.respond req = op.program reg >>= fun reply => pure (id reply.response) := by
    intro r domain hpath hmethod hnames hop
    have hr : r.isPost = true := by
      cases r with
      | submit | remove | setPreloaded => rfl
      | _ => cases hop
    unfold respond
    rw [hpath]
    dsimp only
    rw [if_pos hr, if_pos hmethod, respondTo_post hnames hop]
    rfl
  cases h with
  | @submit domain hmethod hpath hnames =>
    exact ⟨id, hpost .submit domain (by rw [hpath]; rfl) hmethod hnames rfl⟩
  | @remove domain hmethod hpath hnames =>
    exact ⟨id, hpost .remove domain (by rw [hpath]; rfl) hmethod hnames rfl⟩
  | @setPreloaded domain hon hmethod hpath hnames =>
    exact ⟨id, hpost .setPreloaded domain (by rw [hpath, hon]; rfl) hmethod hnames rfl⟩
  | update hmethod hpath =>
    have hroute : Route.ofPath? reg.debugEndpoints req.path = some .update := by
      rw [hpath]
      rfl
    unfold respond
    rw [hroute]
    dsimp only
    have hasked : ¬Route.update.isPost = true := Bool.false_ne_true
    rw [if_neg hasked, respondTo_update]
    by_cases hget : req.method = "GET"
    · exact ⟨id, by rw [if_pos hget]; rfl⟩
    · refine ⟨Response.withoutBody, ?_⟩
      rw [if_neg hget, if_pos (hmethod.resolve_left hget), bind_assoc]
      rfl

lemma settled_aboutDomain {answer : String → Program Response}
    (h : ∀ domain, (answer domain).Settled fun _ => True) :
    (aboutDomain req answer).Settled fun _ => True := by
  unfold aboutDomain
  cases domainOf req with
  | ok domain => exact h domain
  | error response => trivial

lemma settled_respondTo {r : Route} (hpost : r.isPost = false) (hupdate : r ≠ .update) :
    (reg.respondTo req r).Settled fun _ => True := by
  cases r with
  | submit | remove | setPreloaded => cases hpost
  | update => exact (hupdate rfl).elim
  | preloadable => exact settled_aboutDomain fun _ => trivial
  | removable =>
    exact settled_aboutDomain fun domain => (settled_removable reg domain).bind fun _ _ => trivial
  | status =>
    exact settled_aboutDomain fun domain =>
      (settled_status domain).bind fun answer _ => by cases answer <;> trivial
  | pending => exact settled_pending.bind fun _ _ => trivial
  | pendingRemoval | pendingAutomatedRemoval =>
    exact (settled_cachedNames _ _).bind fun _ _ => trivial
  | allStates => exact settled_allStates.bind fun answer _ => by cases answer <;> trivial

lemma respondTo_of_unnamed (reg : Registry) {r : Route} (htakes : r.takesDomain = true)
    (h : ∀ domain, ¬req.Names domain) :
    ∃ response : Response, response.status = 400 ∧ reg.respondTo req r = .done response := by
  cases hd : domainOf req with
  | error response =>
    have hbad : ∀ answer, aboutDomain req answer = .done response := by
      intro answer
      rw [aboutDomain, hd]
      rfl
    refine ⟨response, status_of_domainOf_error hd, ?_⟩
    cases r with
    | preloadable | removable | status | submit | remove | setPreloaded => exact hbad _
    | _ => cases htakes
  | ok domain => exact (h domain (domainOf_eq_ok.mp hd)).elim

lemma takesDomain_of_isPost {r : Route} (h : r.isPost = true) : r.takesDomain = true := by
  cases r with
  | submit | remove | setPreloaded => rfl
  | _ => cases h

theorem settled_respond (h : ∀ op, ¬reg.Asks req op) : (reg.respond req).Settled fun _ => True := by
  unfold respond
  cases hr : Route.ofPath? reg.debugEndpoints req.path with
  | none => trivial
  | some r =>
    obtain ⟨hsubmit, hremove, hupdate, hset⟩ := path_of_ofPath? hr
    dsimp only
    by_cases hpost : r.isPost = true
    · rw [if_pos hpost]
      split
      · next hmethod =>
        have hunnamed : ∀ domain, ¬req.Names domain := by
          intro domain hnames
          cases r with
          | submit => exact h _ (.submit hmethod (hsubmit rfl) hnames)
          | remove => exact h _ (.remove hmethod (hremove rfl) hnames)
          | setPreloaded => exact h _ (.setPreloaded (hset rfl).1 hmethod (hset rfl).2 hnames)
          | _ => cases hpost
        have htakes := takesDomain_of_isPost hpost
        obtain ⟨response, -, heq⟩ := reg.respondTo_of_unnamed htakes hunnamed
        rw [heq]
        trivial
      · trivial
    · rw [if_neg hpost]
      by_cases hu : r = .update
      · -- an update is asked for with either method, so the method must be another one
        have hget : req.method ≠ "GET" := fun hm => h _ (.update (.inl hm) (hupdate hu))
        have hhead : req.method ≠ "HEAD" := fun hm => h _ (.update (.inr hm) (hupdate hu))
        rw [if_neg hget, if_neg hhead]
        trivial
      · have hsettled : (reg.respondTo req r).Settled fun _ => True :=
          settled_respondTo (eq_false_of_ne_true hpost) hu
        split
        · exact hsettled
        · split
          · exact hsettled.bind fun _ _ => trivial
          · trivial

lemma keeps_respond_of_asks {c : Contract} {rs : Records}
    (h : ∀ op, reg.Asks req op → (op.program reg).Keeps c (fun _ _ => True) rs) :
    (reg.respond req).Keeps c (fun _ _ => True) rs := by
  by_cases hasked : ∃ op, reg.Asks req op
  · obtain ⟨op, hasks⟩ := hasked
    obtain ⟨told, heq⟩ := respond_of_asks hasks
    rw [heq]
    exact (h op hasks).bind fun _ _ _ => Keeps.pure fun _ _ => trivial
  · exact (settled_respond fun op hop => hasked ⟨op, hop⟩).keeps c rs

end Registry

section Runs

variable {σ α β : Type} [RecordStore σ] [LawfulStore σ] {w w' : World σ}

/-- A program whose answer is only told differently does the same on its way. -/
lemma World.steps_of_told (tell : β → α) {p : Program β} {q : Program α}
    (hs : Relation.ReflTransGen Step (w, p >>= fun b => pure (tell b)) (w', q)) :
    ∃ p', q = (p' >>= fun b => pure (tell b)) ∧ Relation.ReflTransGen Step (w, p) (w', p') := by
  refine holds_along (P := fun x : World σ × Program α => ∃ p',
    x.2 = (p' >>= fun b => pure (tell b)) ∧ Relation.ReflTransGen Step (w, p) (x.1, p')) ?_ hs
    ⟨p, rfl, .refl⟩
  rintro ⟨w₁, q₁⟩ ⟨w₂, q₂⟩ hstep ⟨p₁, rfl, hp₁⟩
  generalize hq : (p₁ >>= fun b => pure (tell b)) = q₁ at hstep
  cases hstep with
  | drift _ hd => exact ⟨p₁, hq.symm, hp₁.tail (.drift p₁ hd)⟩
  | access _ a next =>
    cases p₁ with
    | done b => cases hq
    | step a' next' => cases hq; exact ⟨_, rfl, hp₁.tail (.access w₁ a next')⟩

lemma Program.Settled.records_of_steps {post : α → Prop} {p p' : Program α} (h : p.Settled post)
    (hs : Relation.ReflTransGen World.Step (w, p) (w', p')) : w'.records = w.records :=
  ((h.keeps (.alone (· = w.records)) w.records).steps rfl hs).1

/-- The names that an update may change: those the list enforces, and those that are recorded as
preloaded or as leaving. -/
def Registry.MayReconcile (reg : Registry) (rs : Records) (name : String) : Prop :=
  ∃ l, reg.list = .ok l ∧ ((∃ e ∈ l.entries, e.isHsts = true ∧ e.name = name) ∨
    (rs.get name).status = .preloaded ∨ (rs.get name).status = .pendingRemoval)

lemma Records.Advances.mayReconcile {reg : Registry} {l : PreloadList} {rs rs' : Records}
    (h : rs.Advances l rs') (hl : reg.list = .ok l) {name : String}
    (hc : rs'[name]? ≠ rs[name]?) : reg.MayReconcile rs name := by
  have hafter := (h name).resolve_left hc
  cases hd : (rs.get name).onReconcile (l.first? name) with
  | unchanged => exact (hc (hafter.trans (reconciled?_of_unchanged hd))).elim
  | transition r =>
    refine ⟨l, hl, ?_⟩
    obtain ⟨e, hfirst, -, -⟩ | ⟨-, hs, -⟩ | ⟨-, hs, -⟩ := Record.onReconcile_cases hd
    · exact .inl ⟨e, PreloadList.exists_of_first? hfirst⟩
    · exact .inr (.inl hs)
    · exact .inr (.inr hs)

/-- A request changes no record, unless it asks for one of the operations that write: then it is
the record of its domain, or one that an update may change. -/
theorem Registry.changes_only_asked {reg : Registry} (hb : reg.Batched) {req : Request}
    {p : Program Response} (hk : w.records.Keyed)
    (hs : Relation.ReflTransGen World.Step (w, reg.respond req) (w', p)) {name : String}
    (hc : w'.records[name]? ≠ w.records[name]?) :
    ∃ op, reg.Asks req op ∧
      (op.domain? = some name ∨ op = .update ∧ reg.MayReconcile w.records name) := by
  by_cases hasked : ∃ op, reg.Asks req op
  · obtain ⟨op, hasks⟩ := hasked
    obtain ⟨told, heq⟩ := respond_of_asks hasks
    rw [heq] at hs
    obtain ⟨p', -, hp'⟩ := World.steps_of_told _ hs
    refine ⟨op, hasks, ?_⟩
    obtain hsame | ⟨r, hd, hput⟩ | ⟨l, hop, hl, hadvances⟩ := (op.explained hb hk hp').effect
    · exact (hc (congrArg (·[name]?) hsame)).elim
    · have hname : r.name = name := by
        by_contra hne
        dsimp only at hput
        exact hc (by rw [hput, Records.getElem?_put, if_neg hne])
      exact .inl (hname ▸ hd.domain?_eq hk)
    · exact .inr ⟨hop, hadvances.mayReconcile hl hc⟩
  · have hsettled := settled_respond fun op hop => hasked ⟨op, hop⟩
    exact (hc (congrArg (·[name]?) (hsettled.records_of_steps hs))).elim

end Runs

/-- A request on a route that is about one domain, without a domain that has a normal form, is a
bad one, and it is answered without a look at the store. -/
theorem Registry.respond_of_unnamed {reg : Registry} {req : Request} {r : Route}
    (hmeets : reg.Meets req r) (htakes : r.takesDomain = true)
    (hnone : ∀ domain, ¬req.Names domain) :
    ∃ response : Response, response.status = 400 ∧ reg.respond req = .done response := by
  obtain ⟨hpath, hmethod⟩ := hmeets
  obtain ⟨response, hbad, hto⟩ := reg.respondTo_of_unnamed htakes hnone
  unfold respond
  rw [hpath]
  dsimp only
  by_cases hpost : r.isPost = true
  · rw [if_pos hpost] at hmethod ⊢
    rw [if_pos hmethod]
    exact ⟨response, hbad, hto⟩
  · rw [if_neg hpost] at hmethod ⊢
    split
    · exact ⟨response, hbad, hto⟩
    · rw [if_pos (hmethod.resolve_left ‹_›), hto]
      exact ⟨response.withoutBody, hbad, rfl⟩

end HstsPreload
