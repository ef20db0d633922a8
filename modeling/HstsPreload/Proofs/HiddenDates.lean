import HstsPreload.Proofs.Routing

/-!
# Programs that do not look at dates

The submission date of a record is only told when the domain is submitted again. Every other request
is answered by a program that goes on in the same way whatever the dates of the records are that it
is told, and what it writes differs at most in dates as well.
-/

namespace HstsPreload

open Program Web

namespace Record

/-- The record without its date. -/
def undated (r : Record) : Record :=
  { r with submissionDate := none }

variable {r r' : Record}

lemma eq_of_undated (h : r.undated = r'.undated) :
    r' = { r with submissionDate := r'.submissionDate } := by
  obtain ⟨name, status, message, date, subdomains, policy⟩ := r
  obtain ⟨name', status', message', date', subdomains', policy'⟩ := r'
  simp only [undated, mk.injEq] at h
  obtain ⟨rfl, rfl, rfl, -, rfl, rfl⟩ := h
  rfl

lemma map_eq_of_undated {α : Type} {f : Record → α} (hf : ∀ r, f r = f r.undated)
    {rs rs' : List Record} (h : rs.map undated = rs'.map undated) : rs.map f = rs'.map f := by
  have hmap : ∀ rs : List Record, rs.map f = (rs.map undated).map f := fun rs => by
    rw [List.map_map]
    exact List.map_congr_left fun r _ => hf r
  rw [hmap, h, ← hmap]

lemma onRemove_undated (r : Record) (now : Instant) : r.undated.onRemove now = r.onRemove now := rfl

lemma next?_undated (r : Record) (e : Option Entry) :
    (Plan.next? (r.undated.onReconcile e)).map undated =
      (Plan.next? (r.onReconcile e)).map undated := by
  obtain ⟨name, status, message, date, subdomains, policy⟩ := r
  cases status <;> cases e <;> rfl

end Record

namespace StatusView

def undated (v : StatusView) : StatusView :=
  { v with record := v.record.undated }

lemma eq_of_undated {v v' : StatusView} (h : v.undated = v'.undated) :
    v' = { v with record := { v.record with submissionDate := v'.record.submissionDate } } := by
  obtain ⟨r, bulk, covering⟩ := v
  obtain ⟨r', bulk', covering'⟩ := v'
  simp only [undated, mk.injEq] at h
  obtain ⟨hr, rfl, rfl⟩ := h
  exact congrArg (fun r => (⟨r, bulk, covering⟩ : StatusView)) (Record.eq_of_undated hr)

end StatusView

namespace Plan

def undated (p : Plan) : Plan :=
  { p with
    added := p.added.map .undated
    removed := p.removed.map .undated
    selfRejected := p.selfRejected.map .undated }

lemma undated_build (list : PreloadList) (preloaded removals automated : List Record) :
    (build list (preloaded.map .undated) (removals.map .undated)
      (automated.map .undated)).undated = (build list preloaded removals automated).undated := by
  have hnames : ∀ rs : List Record, (rs.map Record.undated).map Record.name = rs.map Record.name :=
    fun rs => List.map_map
  have hnext : ∀ (entry : Record → Option Entry) (rs : List Record),
      (∀ r, entry r.undated = entry r) →
      ((rs.map Record.undated).filterMap fun r => next? (r.onReconcile (entry r))).map .undated =
        (rs.filterMap fun r => next? (r.onReconcile (entry r))).map Record.undated := by
    intro entry rs h
    rw [List.filterMap_map, List.map_filterMap, List.map_filterMap]
    refine List.filterMap_congr fun r _ => ?_
    rw [Function.comp_apply, h, Record.next?_undated]
  unfold undated build
  simp only [List.map_append, hnames]
  rw [hnext _ _ fun _ => rfl, hnext _ _ fun _ => rfl]

lemma updates_undated (p : Plan) : p.undated.updates = p.updates.map .undated := by
  simp only [updates, undated, List.map_append]

lemma summary_undated (p : Plan) : p.undated.summary = p.summary := by
  unfold summary undated
  simp only [List.length_map]

end Plan

/-- Both are there, and `f` does not tell them apart. -/
def Both {ε α β : Type} (f : α → β) (x y : Except ε α) : Prop :=
  ∃ a b, x = .ok a ∧ y = .ok b ∧ f a = f b

/-- Two accesses that differ at most in the dates of records, and what is told to both: what they
read is there and differs at most in dates. -/
inductive Access.Abreast : (a a' : Access) → (a.Answer → a'.Answer → Prop) → Prop
  | cached (domain : String) : Abreast (.cached domain) (.cached domain)
      fun x y => x.map Record.undated = y.map Record.undated
  | cachedList (s : Status) : Abreast (.cachedList s) (.cachedList s)
      fun x y => x.map (List.map Record.undated) = y.map (List.map Record.undated)
  | generation : Abreast .generation .generation Eq
  | load (domain : String) : Abreast (.load domain) (.load domain) (Both Record.undated)
  | loadList (s : Status) : Abreast (.loadList s) (.loadList s) (Both (List.map Record.undated))
  | loadAll : Abreast .loadAll .loadAll (Both (List.map Record.undated))
  | keep (generation : UInt64) {r r' : Record} : r.undated = r'.undated →
      Abreast (.keep generation r) (.keep generation r') fun _ _ => True
  | keepList (generation : UInt64) (s : Status) {rs rs' : List Record} :
      rs.map Record.undated = rs'.map Record.undated →
      Abreast (.keepList generation s rs) (.keepList generation s rs') fun _ _ => True
  | commit {batch batch' : List Record} : batch.map Record.undated = batch'.map Record.undated →
      Abreast (.commit batch) (.commit batch') fun x y => x = y
  | invalidate : Abreast .invalidate .invalidate fun _ _ => True

/-- Two programs that stay abreast: told the same but for dates, they do the same but for dates, and
their answers are related by `R`. -/
inductive Program.Abreast {α β : Type} (R : α → β → Prop) : Program α → Program β → Prop
  | done {a : α} {b : β} : R a b → Abreast R (.done a) (.done b)
  | step {a a' : Access} {told : a.Answer → a'.Answer → Prop} {next : a.Answer → Program α}
      {next' : a'.Answer → Program β} : a.Abreast a' told →
      (∀ x y, told x y → Abreast R (next x) (next' y)) →
      Abreast R (.step a next) (.step a' next')

namespace Program

variable {α β γ δ : Type} {R : α → β → Prop} {S : γ → δ → Prop}

lemma Abreast.bind {p : Program α} {p' : Program β} {f : α → Program γ} {g : β → Program δ}
    (h : p.Abreast R p') (hf : ∀ a b, R a b → (f a).Abreast S (g b)) :
    (p >>= f).Abreast S (p' >>= g) := by
  induction h with
  | done hab => exact hf _ _ hab
  | step ha _ ih => exact .step ha fun x y hxy => ih x y hxy

lemma abreast_access {a a' : Access} {told : a.Answer → a'.Answer → Prop}
    (h : a.Abreast a' told) : (access a).Abreast told (access a') :=
  .step h fun _ _ hxy => .done hxy

end Program

namespace Writer

lemma chunksFrom_map {α β : Type} (f : α → β) (size fuel : Nat) (xs : List α) :
    chunksFrom size fuel (xs.map f) = (chunksFrom size fuel xs).map (List.map f) := by
  induction fuel generalizing xs with
  | zero => rfl
  | succ fuel ih =>
    rw [chunksFrom, chunksFrom]
    by_cases h : xs = []
    · rw [if_pos h, if_pos (List.map_eq_nil_iff.mpr h)]
      rfl
    · rw [if_neg h, if_neg (mt List.map_eq_nil_iff.mp h), ← List.map_take, ← List.map_drop, ih,
        List.map_cons]

lemma abreast_commitAll {batches batches' : List (List Record)}
    (h : batches.map (List.map Record.undated) = batches'.map (List.map Record.undated)) :
    (commitAll batches).Abreast Eq (commitAll batches') := by
  induction batches generalizing batches' with
  | nil =>
    obtain rfl := List.map_eq_nil_iff.mp h.symm
    exact .done rfl
  | cons batch more ih =>
    obtain ⟨batch', more', rfl, hbatch, hmore⟩ := List.map_eq_cons_iff.mp h.symm
    -- what is told as the batches go along are their sizes
    have hlength : batch'.length = batch.length := by
      rw [← List.length_map Record.undated, hbatch, List.length_map]
    refine (abreast_access (.commit hbatch.symm)).bind fun outcome _ hout => ?_
    obtain rfl := hout
    rw [hlength]
    cases outcome with
    | error fault => exact .done rfl
    | ok u =>
      refine (ih hmore.symm).bind fun report report' hreport => ?_
      subst hreport
      exact .done rfl

lemma abreast_putAll {updates updates' : List Record}
    (h : updates.map Record.undated = updates'.map Record.undated) :
    (putAll updates).Abreast Eq (putAll updates') := by
  have hlength : updates'.length = updates.length := by
    rw [← List.length_map Record.undated, ← h, List.length_map]
  have hempty : updates'.isEmpty = updates.isEmpty := by
    rw [← List.isEmpty_map (f := Record.undated), ← h, List.isEmpty_map]
  unfold putAll
  rw [hempty]
  split
  · exact .done rfl
  · refine abreast_commitAll ?_
    rw [batches, batches, ← chunksFrom_map, ← chunksFrom_map, h, hlength]

end Writer

namespace Registry

lemma abreast_cachedRecord (domain : String) :
    (cachedRecord domain).Abreast (Both Record.undated) (cachedRecord domain) := by
  refine (abreast_access (.cached domain)).bind fun found found' hfound => ?_
  cases found with
  | some r =>
    obtain ⟨r', rfl, hr⟩ := Option.map_eq_some_iff.mp hfound.symm
    exact .done ⟨r, r', rfl, rfl, hr.symm⟩
  | none =>
    obtain rfl := Option.map_eq_none_iff.mp hfound.symm
    refine (abreast_access .generation).bind fun generation generation' hgeneration => ?_
    subst hgeneration
    refine (abreast_access (.load domain)).bind ?_
    rintro _ _ ⟨r, r', rfl, rfl, hr⟩
    exact (abreast_access (.keep generation hr)).bind fun _ _ _ => .done ⟨r, r', rfl, rfl, hr⟩

lemma abreast_cachedList (s : Status) :
    (cachedList s).Abreast (Both (List.map Record.undated)) (cachedList s) := by
  refine (abreast_access (.cachedList s)).bind fun found found' hfound => ?_
  cases found with
  | some rs =>
    obtain ⟨rs', rfl, hrs⟩ := Option.map_eq_some_iff.mp hfound.symm
    exact .done ⟨rs, rs', rfl, rfl, hrs.symm⟩
  | none =>
    obtain rfl := Option.map_eq_none_iff.mp hfound.symm
    refine (abreast_access .generation).bind fun generation generation' hgeneration => ?_
    subst hgeneration
    refine (abreast_access (.loadList s)).bind ?_
    rintro _ _ ⟨rs, rs', rfl, rfl, hrs⟩
    exact (abreast_access (.keepList generation s hrs)).bind
      fun _ _ _ => .done ⟨rs, rs', rfl, rfl, hrs⟩

lemma abreast_coveringAmong (candidates : List String) :
    (coveringAmong candidates).Abreast Eq (coveringAmong candidates) := by
  induction candidates with
  | nil => exact .done rfl
  | cons candidate more ih =>
    refine (abreast_cachedRecord candidate).bind ?_
    rintro _ _ ⟨r, r', rfl, rfl, hr⟩
    rw [Record.eq_of_undated hr]
    dsimp only
    split
    · exact .done rfl
    · exact ih

lemma abreast_status (domain : String) :
    (status domain).Abreast (Both StatusView.undated) (status domain) := by
  refine (abreast_cachedRecord domain).bind ?_
  rintro _ _ ⟨r, r', rfl, rfl, hr⟩
  rw [Record.eq_of_undated hr]
  dsimp only
  split
  · refine (abreast_coveringAmong _).bind fun covering covering' hcovering => ?_
    subst hcovering
    cases covering <;> exact .done ⟨_, _, rfl, rfl, rfl⟩
  · split <;> exact .done ⟨_, _, rfl, rfl, rfl⟩

variable {reg : Registry} {req : Request}

lemma abreast_removable (reg : Registry) (domain : String) :
    (reg.removable domain).Abreast Eq (reg.removable domain) := by
  refine (abreast_status domain).bind ?_
  rintro _ _ ⟨v, v', rfl, rfl, hv⟩
  have hprotected : v'.record.isProtected = v.record.isProtected := by
    rw [StatusView.eq_of_undated hv]
    rfl
  have hcovering : (v'.preloadedDomain.filter fun d => v'.record.status = .preloaded && d != domain)
      = v.preloadedDomain.filter fun d => v.record.status = .preloaded && d != domain := by
    rw [StatusView.eq_of_undated hv]
  dsimp only
  rw [hcovering, hprotected]
  split
  · exact .done rfl
  · split <;> exact .done rfl

lemma abreast_pending : pending.Abreast (Both (List.map Record.undated)) pending := by
  refine (abreast_cachedList _).bind ?_
  rintro _ _ ⟨rs, rs', rfl, rfl, h⟩
  exact .done ⟨rs, rs', rfl, rfl, h⟩

lemma abreast_cachedNames (s : Status) (what : String) :
    (cachedNames s what).Abreast Eq (cachedNames s what) := by
  refine (abreast_cachedList s).bind ?_
  rintro _ _ ⟨rs, rs', rfl, rfl, h⟩
  exact .done (congrArg Except.ok (Record.map_eq_of_undated (fun _ => rfl) h))

lemma abreast_allStates : allStates.Abreast (Both (List.map Record.undated)) allStates := by
  refine (abreast_access .loadAll).bind ?_
  rintro _ _ ⟨rs, rs', rfl, rfl, h⟩
  exact .done ⟨rs, rs', rfl, rfl, h⟩

lemma abreast_persist (hb : reg.Batched) (r : Record) :
    (reg.persist r).Abreast Eq (reg.persist r) := by
  unfold persist
  rw [hb]
  refine (Writer.abreast_putAll rfl).bind fun report report' hreport => ?_
  subst hreport
  exact (abreast_access .invalidate).bind fun _ _ _ => .done rfl

lemma abreast_remove (hb : reg.Batched) (domain : String) :
    (reg.remove domain).Abreast Eq (reg.remove domain) := by
  unfold remove
  dsimp only
  split
  · exact .done rfl
  · refine (abreast_access (.load domain)).bind ?_
    rintro _ _ ⟨r, r', rfl, rfl, hr⟩
    have hsame : r'.onRemove reg.now = r.onRemove reg.now := by
      rw [← Record.onRemove_undated, ← hr, Record.onRemove_undated]
    dsimp only
    rw [hsame]
    cases r.onRemove reg.now with
    | accept next =>
      refine (abreast_persist hb next).bind fun outcome outcome' hout => ?_
      subst hout
      cases outcome <;> exact .done rfl
    | unneeded reason | refuse reason => exact .done rfl

lemma abreast_setPreloaded (hb : reg.Batched) (domain : String) :
    (reg.setPreloaded domain).Abreast Eq (reg.setPreloaded domain) := by
  refine (abreast_persist hb _).bind fun outcome outcome' hout => ?_
  subst hout
  cases outcome <;> exact .done rfl

/-- What is told of a plan that could not be made, or that could but for the dates in it. -/
lemma abreast_planUpdate (reg : Registry) : reg.planUpdate.Abreast
    (fun x y => x.map Plan.undated = y.map Plan.undated) reg.planUpdate := by
  unfold planUpdate
  cases reg.list with
  | error fault => exact .done rfl
  | ok list =>
    refine (abreast_access (.loadList .preloaded)).bind ?_
    rintro _ _ ⟨preloaded, preloaded', rfl, rfl, hpreloaded⟩
    refine (abreast_access (.loadList .pendingRemoval)).bind ?_
    rintro _ _ ⟨removals, removals', rfl, rfl, hremovals⟩
    refine (abreast_access (.loadList .pendingAutomatedRemoval)).bind ?_
    rintro _ _ ⟨automated, automated', rfl, rfl, hautomated⟩
    refine .done (congrArg Except.ok ?_)
    rw [← Plan.undated_build, hpreloaded, hremovals, hautomated, Plan.undated_build]

lemma abreast_applyPlan (hb : reg.Batched) {p p' : Plan} (h : p.undated = p'.undated) :
    (reg.applyPlan p).Abreast Eq (reg.applyPlan p') := by
  have hupdates : p.updates.map Record.undated = p'.updates.map Record.undated := by
    rw [← Plan.updates_undated, h, Plan.updates_undated]
  have hlength : p.updates.length = p'.updates.length := by
    simpa only [List.length_map] using congrArg List.length hupdates
  unfold applyPlan
  rw [hb]
  refine (Writer.abreast_putAll hupdates).bind fun report report' hreport => ?_
  subst hreport
  refine (abreast_access .invalidate).bind fun _ _ _ => .done ?_
  unfold Plan.report Plan.closing
  rw [hlength]

lemma abreast_respondUpdate (hb : reg.Batched) :
    reg.respondUpdate.Abreast Eq reg.respondUpdate := by
  refine (abreast_planUpdate reg).bind fun x y h => ?_
  cases x with
  | error fault =>
    cases y with
    | error fault' =>
      cases h
      exact .done rfl
    | ok p => cases h
  | ok p =>
    cases y with
    | error fault => cases h
    | ok p' =>
      have hp : p.undated = p'.undated := Except.ok.inj h
      have hsummary : p.summary = p'.summary := by
        rw [← Plan.summary_undated, hp, Plan.summary_undated]
      refine (abreast_applyPlan hb hp).bind fun r r' hr => .done ?_
      subst hr
      rw [hsummary]
      rfl

lemma abreast_respondStatus (domain : String) :
    (respondStatus domain).Abreast Eq (respondStatus domain) := by
  refine (abreast_status domain).bind ?_
  rintro _ _ ⟨v, v', rfl, rfl, hv⟩
  rw [StatusView.eq_of_undated hv]
  exact .done rfl

lemma abreast_respondAllStates : respondAllStates.Abreast Eq respondAllStates := by
  refine abreast_allStates.bind ?_
  rintro _ _ ⟨rs, rs', rfl, rfl, h⟩
  refine .done (congrArg (fun views => jsonResponse (.list views)) ?_)
  exact Record.map_eq_of_undated (fun _ => rfl) h

lemma abreast_aboutDomain {answer : String → Program Response}
    (h : ∀ domain, (answer domain).Abreast Eq (answer domain)) :
    (aboutDomain req answer).Abreast Eq (aboutDomain req answer) := by
  unfold aboutDomain
  cases domainOf req with
  | ok domain => exact h domain
  | error response => exact .done rfl

lemma abreast_told {α : Type} {p : Program α} (tell : α → Response) (h : p.Abreast Eq p) :
    (p >>= fun answer => pure (tell answer)).Abreast Eq
      (p >>= fun answer => pure (tell answer)) := by
  refine h.bind fun answer answer' heq => ?_
  subst heq
  exact .done rfl

lemma abreast_respondTo (hb : reg.Batched) {r : Route} (hr : r ≠ .submit) :
    (reg.respondTo req r).Abreast Eq (reg.respondTo req r) := by
  cases r with
  | submit => exact absurd rfl hr
  | preloadable => exact abreast_aboutDomain fun _ => .done rfl
  | removable =>
    exact abreast_aboutDomain fun domain => abreast_told _ (abreast_removable reg domain)
  | status => exact abreast_aboutDomain abreast_respondStatus
  | remove => exact abreast_aboutDomain fun domain => abreast_told _ (abreast_remove hb domain)
  | setPreloaded =>
    exact abreast_aboutDomain fun domain => abreast_told _ (abreast_setPreloaded hb domain)
  | pending =>
    refine abreast_pending.bind ?_
    rintro _ _ ⟨rs, rs', rfl, rfl, h⟩
    refine .done (congrArg linesResponse ?_)
    exact Record.map_eq_of_undated (fun _ => rfl) h
  | pendingRemoval | pendingAutomatedRemoval => exact abreast_told _ (abreast_cachedNames _ _)
  | update => exact abreast_respondUpdate hb
  | allStates => exact abreast_respondAllStates

def IsSubmission (req : Request) : Prop :=
  req.method = "POST" ∧ req.path = "/submit"

lemma abreast_respond (hb : reg.Batched) (h : ¬IsSubmission req) :
    (reg.respond req).Abreast Eq (reg.respond req) := by
  unfold respond
  cases hpath : Route.ofPath? reg.debugEndpoints req.path with
  | none => exact .done rfl
  | some r =>
    dsimp only
    split
    · split
      · next hpost =>
        refine abreast_respondTo hb fun hr => h ⟨hpost, ?_⟩
        exact (path_of_ofPath? hpath).1 hr
      · exact .done rfl
    · next hget =>
      have hr : r ≠ .submit := fun hr => hget (hr ▸ rfl)
      split
      · exact abreast_respondTo hb hr
      · split
        · exact abreast_told _ (abreast_respondTo hb hr)
        · exact .done rfl

end Registry

end HstsPreload
