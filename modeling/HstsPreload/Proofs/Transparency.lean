import HstsPreload.Proofs.Coherence
import HstsPreload.Proofs.Operations

/-!
# The cache does not show

As long as the registry is used by one caller at a time, every call is answered as it would be
without a cache, and leaves the same store. What a call reads through the cache is what the
store holds, because the calls that write do not read through it and empty it when they end,
also when the write failed.
-/

namespace HstsPreload

open Program

variable {σ α β : Type} [RecordStore σ]

/-- What becomes of a store when batches are written to it, whether or not they are stored. -/
def RecordStore.afterWrites (s : σ) : List (List Record) → σ
  | [] => s
  | batch :: more => afterWrites (RecordStore.write s batch).withinDeadline.2 more

namespace Access

/-- The store after an access. -/
def storeAfter (s : σ) : Access → σ
  | .commit batch => (RecordStore.write s batch).withinDeadline.2
  | _ => s

/-- Whether the cache agrees with the store after an access. -/
def agreement (agrees : Bool) : Access → Bool
  | .commit _ => false
  | .invalidate => true
  | _ => agrees

/-- An access that uses the cache only while it agrees with the store, and puts nothing into it
that the store does not hold. -/
def Fits (agrees : Bool) (rs : Records) : Access → Prop
  | .cached _ | .cachedList _ => agrees = true
  | .keep _ r => agrees = true ∧ rs.get r.name = r
  | .keepList _ s found => agrees = true ∧ rs.withStatus s = found
  | _ => True

end Access

lemma World.store_answer (w : World σ) (a : Access) :
    (w.answer a).2.store = a.storeAfter w.store := by
  cases a <;> rfl

variable [LawfulStore σ]

/-- A store whose reads succeed, now and after any writes, with each record under its name. -/
structure Dependable (s : σ) : Prop where
  keyed : (LawfulStore.records s).Keyed
  find (batches : List (List Record)) (domain : String) :
    ∃ r, RecordStore.find (RecordStore.afterWrites s batches) domain = .ok r
  withStatus (batches : List (List Record)) (status : Status) :
    ∃ rs, RecordStore.withStatus (RecordStore.afterWrites s batches) status = .ok rs
  all (batches : List (List Record)) :
    ∃ rs, RecordStore.all (RecordStore.afterWrites s batches) = .ok rs

namespace Dependable

variable {s : σ}

lemma find_eq (h : Dependable s) (domain : String) :
    RecordStore.find s domain = .ok ((LawfulStore.records s).get domain) := by
  obtain ⟨r, hr⟩ := h.find [] domain
  exact hr.trans (congrArg Except.ok (LawfulStore.find_ok hr))

lemma withStatus_eq (h : Dependable s) (status : Status) :
    RecordStore.withStatus s status = .ok ((LawfulStore.records s).withStatus status) := by
  obtain ⟨rs, hrs⟩ := h.withStatus [] status
  exact hrs.trans (congrArg Except.ok (LawfulStore.withStatus_ok hrs))

lemma all_eq (h : Dependable s) :
    RecordStore.all s = .ok (LawfulStore.records s).inOrder := by
  obtain ⟨rs, hrs⟩ := h.all []
  exact hrs.trans (congrArg Except.ok (LawfulStore.all_ok hrs))

lemma write (h : Dependable s) (batch : List Record) :
    Dependable (RecordStore.write s batch).withinDeadline.2 := by
  refine ⟨?_, fun more => h.find (batch :: more), fun more => h.withStatus (batch :: more),
    fun more => h.all (batch :: more)⟩
  cases hw : (RecordStore.write s batch).withinDeadline.1 with
  | ok u => exact (LawfulStore.write_ok hw) ▸ h.keyed.putAll batch
  | error fault => exact (LawfulStore.write_error hw) ▸ h.keyed

lemma storeAfter (h : Dependable s) (a : Access) : Dependable (a.storeAfter s) := by
  cases a with
  | commit batch => exact h.write batch
  | _ => exact h

end Dependable

/-- What an access may tell over a store whose reads succeed. From a cache that agrees with the
store it is what the store holds, or nothing. -/
def Access.Tells (s : σ) : (a : Access) → a.Answer → Prop
  | .cached domain, answer => ∀ r, answer = some r → r = (LawfulStore.records s).get domain
  | .cachedList status, answer =>
    ∀ found, answer = some found → found = (LawfulStore.records s).withStatus status
  | .load domain, answer => answer = .ok ((LawfulStore.records s).get domain)
  | .loadList status, answer => answer = .ok ((LawfulStore.records s).withStatus status)
  | .loadAll, answer => answer = .ok (LawfulStore.records s).inOrder
  | .check, answer => answer = RecordStore.check s
  | .commit batch, answer => answer = (RecordStore.write s batch).withinDeadline.1
  | _, _ => True

lemma World.tells_answer {w : World σ} (hs : Dependable w.store) {agrees : Bool}
    (hc : agrees = true → w.Coherent) {a : Access} (ha : a.Fits agrees w.records) :
    a.Tells w.store (w.answer a).1 := by
  cases a with
  | cached domain => exact (hc ha).reads_answer (.cached domain)
  | cachedList status => exact (hc ha).reads_answer (.cachedList status)
  | load domain => exact hs.find_eq domain
  | loadList status => exact hs.withStatus_eq status
  | loadAll => exact hs.all_eq
  | check | commit batch => rfl
  | _ => trivial

lemma World.coherent_answer {w : World σ} {agrees : Bool} (hc : agrees = true → w.Coherent)
    {a : Access} (ha : a.Fits agrees w.records) (h : a.agreement agrees = true) :
    (w.answer a).2.Coherent := by
  cases a with
  | commit batch => cases h
  | invalidate => exact (Cache.cold_invalidate w.cache).coherent
  | keep g r => exact ((hc h).answer (a := .keep g r) ha.2).2
  | keepList g s found => exact ((hc h).answer (a := .keepList g s found) ha.2).2
  | cached domain => exact hc h
  | cachedList status => exact hc h
  | _ => exact hc h

namespace Program

/-- Whatever the cache tells it, a program over the store `s` ends with the answer `a` and
leaves the store `s'`; the flags tell whether the cache agrees with the store. -/
def Yields (a : α) (s' : σ) (agrees' : Bool) : Program α → Bool → σ → Prop
  | .done b, agrees, s => b = a ∧ s = s' ∧ agrees = agrees'
  | .step access next, agrees, s => access.Fits agrees (LawfulStore.records s) ∧
      ∀ answer, access.Tells s answer →
        (next answer).Yields a s' agrees' (access.agreement agrees) (access.storeAfter s)

namespace Yields

variable {a : α} {s s' : σ} {agrees agrees' : Bool}

lemma pure : (Pure.pure a : Program α).Yields a s agrees agrees s :=
  ⟨rfl, rfl, rfl⟩

lemma bind {b : β} {s₁ : σ} {agrees₁ : Bool} {p : Program β} {f : β → Program α}
    (h : p.Yields b s₁ agrees₁ agrees s) (hf : (f b).Yields a s' agrees' agrees₁ s₁) :
    (p >>= f).Yields a s' agrees' agrees s := by
  induction p generalizing agrees s with
  | done c =>
    obtain ⟨rfl, rfl, rfl⟩ := h
    exact hf
  | step access next ih => exact ⟨h.1, fun answer ha => ih answer (h.2 answer ha)⟩

lemma commit {batch : List Record} {outcome : Except StoreFault Unit}
    {next : Except StoreFault Unit → Program α}
    (hw : (RecordStore.write s batch).withinDeadline.1 = outcome)
    (h : (next outcome).Yields a s' agrees' false (RecordStore.write s batch).withinDeadline.2) :
    (access (.commit batch) >>= next).Yields a s' agrees' agrees s := by
  refine ⟨trivial, ?_⟩
  rintro _ rfl
  rw [hw]
  exact h

end Yields

/-- Whatever the cache tells it, a program over a store ends with one answer and leaves one
store, with which the cache agrees again. -/
def Determined (p : Program α) (agrees : Bool) (s : σ) : Prop :=
  ∃ a s', Dependable s' ∧ p.Yields a s' true agrees s

namespace Determined

variable {s : σ} {agrees : Bool}

lemma pure (hs : Dependable s) (a : α) : (Pure.pure a : Program α).Determined true s :=
  ⟨a, s, hs, .pure⟩

lemma bind {p : Program β} {f : β → Program α} (h : p.Determined agrees s)
    (hf : ∀ (b : β) (s' : σ), Dependable s' → (f b).Determined true s') :
    (p >>= f).Determined agrees s := by
  obtain ⟨b, s₁, hs₁, hp⟩ := h
  obtain ⟨a, s', hs', hnext⟩ := hf b s₁ hs₁
  exact ⟨a, s', hs', hp.bind hnext⟩

lemma map (f : β → α) {p : Program β} (h : p.Determined agrees s) :
    (do return f (← p)).Determined agrees s :=
  h.bind fun b _ hs' => pure hs' (f b)

lemma load {domain : String} {next : Except StoreFault Record → Program α}
    (h : (next (.ok ((LawfulStore.records s).get domain))).Determined agrees s) :
    (access (.load domain) >>= next).Determined agrees s := by
  obtain ⟨a, s', hs', hnext⟩ := h
  refine ⟨a, s', hs', trivial, ?_⟩
  rintro _ rfl
  exact hnext

lemma loadList {status : Status} {next : Except StoreFault (List Record) → Program α}
    (h : (next (.ok ((LawfulStore.records s).withStatus status))).Determined agrees s) :
    (access (.loadList status) >>= next).Determined agrees s := by
  obtain ⟨a, s', hs', hnext⟩ := h
  refine ⟨a, s', hs', trivial, ?_⟩
  rintro _ rfl
  exact hnext

lemma loadAll {next : Except StoreFault (List Record) → Program α}
    (h : (next (.ok (LawfulStore.records s).inOrder)).Determined agrees s) :
    (access .loadAll >>= next).Determined agrees s := by
  obtain ⟨a, s', hs', hnext⟩ := h
  refine ⟨a, s', hs', trivial, ?_⟩
  rintro _ rfl
  exact hnext

lemma invalidate {next : Unit → Program α} (h : (next ()).Determined true s) :
    (access .invalidate >>= next).Determined agrees s := by
  obtain ⟨a, s', hs', hnext⟩ := h
  exact ⟨a, s', hs', trivial, fun _ _ => hnext⟩

end Determined

end Program

namespace Writer

lemma exists_yields_commitAll (batches : List (List Record)) {s : σ} (hs : Dependable s)
    (agrees : Bool) : ∃ report s' agrees', Dependable s' ∧
      (commitAll batches).Yields report s' agrees' agrees s := by
  induction batches generalizing s agrees with
  | nil => exact ⟨_, s, agrees, hs, .pure⟩
  | cons batch left ih =>
    unfold commitAll
    cases hw : (RecordStore.write s batch).withinDeadline.1 with
    | ok u =>
      obtain ⟨report, s', agrees', hs', hleft⟩ := ih (hs.write batch) false
      exact ⟨_, s', agrees', hs', .commit hw (hleft.bind .pure)⟩
    | error fault => exact ⟨_, _, false, hs.write batch, .commit hw .pure⟩

lemma exists_yields_putAll (updates : List Record) {s : σ} (hs : Dependable s) :
    ∃ report s' agrees', Dependable s' ∧
      (putAll updates).Yields report s' agrees' true s := by
  unfold putAll
  split
  · exact ⟨_, s, true, hs, .pure⟩
  · exact exists_yields_commitAll _ hs true

/-- Whatever becomes of the writes, emptying the cache makes it agree with the store. -/
lemma determined_putAll_then (updates : List Record) {s : σ} (hs : Dependable s)
    {f : Report → α} : (do
      let report ← putAll updates
      access .invalidate
      return f report : Program α).Determined true s := by
  obtain ⟨report, s', agrees', hs', hwritten⟩ := exists_yields_putAll updates hs
  refine ⟨f report, s', hs', hwritten.bind ⟨trivial, fun _ _ => ?_⟩⟩
  exact .pure

end Writer

namespace Registry

variable {s : σ}

lemma yields_cachedRecord (hs : Dependable s) (domain : String) :
    (cachedRecord domain).Yields (.ok ((LawfulStore.records s).get domain)) s true true s := by
  refine ⟨rfl, fun answer hcached => ?_⟩
  cases answer with
  | some r =>
    obtain rfl := hcached r rfl
    exact .pure
  | none =>
    refine ⟨trivial, fun g _ => ⟨trivial, ?_⟩⟩
    rintro _ rfl
    exact ⟨⟨rfl, congrArg _ (hs.keyed.name_get domain)⟩, fun _ _ => .pure⟩

lemma yields_cachedList (status : Status) :
    (cachedList status).Yields (.ok ((LawfulStore.records s).withStatus status)) s true true
      s := by
  refine ⟨rfl, fun answer hcached => ?_⟩
  cases answer with
  | some found =>
    obtain rfl := hcached found rfl
    exact .pure
  | none =>
    refine ⟨trivial, fun g _ => ⟨trivial, ?_⟩⟩
    rintro _ rfl
    exact ⟨⟨rfl, rfl⟩, fun _ _ => .pure⟩

lemma determined_coveringAmong (hs : Dependable s) (candidates : List String) :
    (coveringAmong candidates).Determined true s := by
  induction candidates generalizing s with
  | nil => exact .pure hs none
  | cons candidate more ih =>
    have hread : (cachedRecord candidate).Determined true s :=
      ⟨_, s, hs, yields_cachedRecord hs candidate⟩
    refine hread.bind fun answer s₁ hs₁ => ?_
    cases answer with
    | error fault => exact ih hs₁
    | ok r =>
      dsimp only
      split
      · exact .pure hs₁ _
      · exact ih hs₁

lemma determined_status (hs : Dependable s) (domain : String) :
    (status domain).Determined true s := by
  have hread : (cachedRecord domain).Determined true s :=
    ⟨_, s, hs, yields_cachedRecord hs domain⟩
  refine hread.bind fun answer s₁ hs₁ => ?_
  cases answer with
  | error fault => exact .pure hs₁ _
  | ok r =>
    dsimp only
    split
    · refine (determined_coveringAmong hs₁ _).bind fun covering s₂ hs₂ => ?_
      cases covering <;> exact .pure hs₂ _
    · split <;> exact .pure hs₁ _

lemma determined_removable (reg : Registry) (hs : Dependable s) (domain : String) :
    (reg.removable domain).Determined true s := by
  refine (determined_status hs domain).bind fun answer s₁ hs₁ => ?_
  cases answer with
  | error fault => exact .pure hs₁ _
  | ok view =>
    dsimp only
    split
    · exact .pure hs₁ _
    · split <;> exact .pure hs₁ _

lemma determined_pending (hs : Dependable s) : pending.Determined true s := by
  have hread : (cachedList .pending).Determined true s :=
    ⟨_, s, hs, yields_cachedList .pending⟩
  exact hread.map _

lemma determined_cachedNames (hs : Dependable s) (status : Status) (what : String) :
    (cachedNames status what).Determined true s := by
  have hread : (cachedList status).Determined true s := ⟨_, s, hs, yields_cachedList status⟩
  refine hread.bind fun answer s₁ hs₁ => ?_
  cases answer <;> exact .pure hs₁ _

lemma determined_allStates (hs : Dependable s) : allStates.Determined true s :=
  .loadAll (.pure hs _)

lemma determined_persist {reg : Registry} (hb : reg.Batched) (r : Record) (hs : Dependable s) :
    (reg.persist r).Determined true s := by
  rw [persist, hb]
  exact Writer.determined_putAll_then [r] hs

lemma determined_submit {reg : Registry} (hb : reg.Batched) (domain : String)
    (hs : Dependable s) : (reg.submit domain).Determined true s := by
  unfold submit
  dsimp only
  split
  · refine .load ?_
    dsimp only
    split <;> exact .pure hs _
  · refine .load ?_
    dsimp only
    split
    · refine (determined_persist hb _ hs).bind fun outcome s₁ hs₁ => ?_
      cases outcome <;> exact .pure hs₁ _
    · exact .pure hs _
    · exact .pure hs _

lemma determined_remove {reg : Registry} (hb : reg.Batched) (domain : String)
    (hs : Dependable s) : (reg.remove domain).Determined true s := by
  unfold remove
  dsimp only
  split
  · exact .pure hs _
  · refine .load ?_
    dsimp only
    split
    · refine (determined_persist hb _ hs).bind fun outcome s₁ hs₁ => ?_
      cases outcome <;> exact .pure hs₁ _
    · exact .pure hs _
    · exact .pure hs _

lemma determined_setPreloaded {reg : Registry} (hb : reg.Batched) (domain : String)
    (hs : Dependable s) : (reg.setPreloaded domain).Determined true s := by
  refine (determined_persist hb _ hs).bind fun outcome s₁ hs₁ => ?_
  cases outcome <;> exact .pure hs₁ _

lemma determined_planUpdate (reg : Registry) (hs : Dependable s) :
    reg.planUpdate.Determined true s := by
  unfold planUpdate
  split
  · exact .pure hs _
  · exact .loadList (.loadList (.loadList (.pure hs _)))

lemma determined_update {reg : Registry} (hb : reg.Batched) (hs : Dependable s) :
    reg.update.Determined true s := by
  refine (determined_planUpdate reg hs).bind fun answer s₁ hs₁ => ?_
  cases answer with
  | error fault => exact .pure hs₁ _
  | ok p =>
    have happly : (reg.applyPlan p).Determined true s₁ := by
      rw [applyPlan, hb]
      exact Writer.determined_putAll_then p.updates hs₁
    exact happly.map _

end Registry

inductive Call where
  | operate (op : Operation)
  | preloadable (domain : String)
  | removable (domain : String)
  | status (domain : String)
  | pending
  | pendingRemoval
  | pendingAutomatedRemoval
  | allStates

inductive CallResult where
  | reply (reply : Reply)
  | issues (answer : Except RegistryFault Issues)
  | view (answer : Except RegistryFault StatusView)
  | records (answer : Except RegistryFault (List Record))
  | names (answer : Except RegistryFault (List String))

def Call.program (reg : Registry) : Call → Program CallResult
  | operate op => do return .reply (← op.program reg)
  | preloadable domain => return .issues (.ok (reg.preloadable domain))
  | removable domain => do return .issues (← reg.removable domain)
  | status domain => do return .view (← Registry.status domain)
  | pending => do return .records (← Registry.pending)
  | pendingRemoval => do return .names (← Registry.pendingRemoval)
  | pendingAutomatedRemoval => do return .names (← Registry.pendingAutomatedRemoval)
  | allStates => do return .records (← Registry.allStates)

lemma Operation.determined {reg : Registry} (hb : reg.Batched) (op : Operation) {s : σ}
    (hs : Dependable s) : (op.program reg).Determined true s := by
  cases op with
  | submit domain => exact (Registry.determined_submit hb domain hs).map _
  | remove domain => exact (Registry.determined_remove hb domain hs).map _
  | setPreloaded domain => exact (Registry.determined_setPreloaded hb domain hs).map _
  | update => exact (Registry.determined_update hb hs).map _

theorem Call.determined {reg : Registry} (hb : reg.Batched) (call : Call) {s : σ}
    (hs : Dependable s) : (call.program reg).Determined true s := by
  cases call with
  | operate op => exact (op.determined hb hs).map _
  | preloadable domain => exact .pure hs _
  | removable domain => exact (Registry.determined_removable reg hs domain).map _
  | status domain => exact (Registry.determined_status hs domain).map _
  | pending => exact (Registry.determined_pending hs).map _
  | pendingRemoval => exact (Registry.determined_cachedNames hs _ _).map _
  | pendingAutomatedRemoval => exact (Registry.determined_cachedNames hs _ _).map _
  | allStates => exact (Registry.determined_allStates hs).map _

namespace World

/-- One step of a program that nobody interferes with: time passes, or it makes its next
access. -/
inductive Paced : World σ × Program α → World σ × Program α → Prop where
  | wait (w : World σ) (p : Program α) (pause : Nat) :
      Paced (w, p) ({ w with time := w.time + pause }, p)
  | access (w : World σ) (a : Access) (next : a.Answer → Program α) :
      Paced (w, .step a next) ((w.answer a).2, next (w.answer a).1)

omit [LawfulStore σ] in
lemma run_paced (w : World σ) (p : Program α) :
    Relation.ReflTransGen Paced (w, p) ((w.run p).2, .done (w.run p).1) := by
  induction p generalizing w with
  | done a => exact .refl
  | step a next ih => exact .head (.access w a next) (ih _ _)

/-- What a program yields over a store it yields in every world with that store, as long as the
cache agrees, at whatever pace. -/
lemma paced_of_yields {w w' : World σ} {p : Program α} {a b : α} {s' : σ}
    (hp : p.Yields a s' true true w.store) (hs : Dependable w.store) (hc : w.Coherent)
    (h : Relation.ReflTransGen Paced (w, p) (w', .done b)) :
    b = a ∧ w'.store = s' ∧ w'.Coherent := by
  have hend : ∃ agrees, Dependable w'.store ∧ (agrees = true → w'.Coherent) ∧
      (Program.done b).Yields a s' true agrees w'.store := by
    refine holds_along (P := fun x : World σ × Program α => ∃ agrees, Dependable x.1.store ∧
      (agrees = true → x.1.Coherent) ∧ x.2.Yields a s' true agrees x.1.store) ?_ h
      ⟨true, hs, fun _ => hc, hp⟩
    rintro x y hstep ⟨agrees, hs₁, hc₁, hp₁⟩
    cases hstep with
    | wait w₁ p pause =>
      exact ⟨agrees, hs₁, fun h => ⟨(hc₁ h).byDomain, (hc₁ h).byStatus⟩, hp₁⟩
    | access w₁ access next =>
      obtain ⟨hfits, hnext⟩ := hp₁
      refine ⟨access.agreement agrees, ?_, coherent_answer hc₁ hfits, ?_⟩
      · rw [store_answer]
        exact hs₁.storeAfter access
      · rw [store_answer]
        exact hnext _ (tells_answer hs₁ hc₁ hfits)
  obtain ⟨agrees, -, hc', hb, hs', hagrees⟩ := hend
  exact ⟨hb, hs', hc' hagrees⟩

/-- A store with a cache in front of it in which nothing is kept yet. -/
def opened (s : σ) (ttl : Nat) : World σ where
  store := s
  cache := { ttl }

lemma coherent_opened (s : σ) (ttl : Nat) : (opened s ttl).Coherent :=
  Cache.Cold.coherent ⟨rfl, rfl⟩

end World

/-- A call with the registry that answers it. Before it something may happen to the store that
makes writes fail or succeed. -/
structure Visit (σ : Type) where
  registry : Registry
  call : Call
  before : σ → σ := id

namespace Visit

/-- What happens before the call touches no record and leaves the reads of the store alone. -/
def Benign (v : Visit σ) : Prop :=
  ∀ s, Dependable s → Dependable (v.before s) ∧
    LawfulStore.records (v.before s) = LawfulStore.records s

/-- The world that a call finds some time after the one before. -/
def found (v : Visit σ) (w : World σ) (pause : Nat) : World σ :=
  { w with store := v.before w.store, time := w.time + pause }

lemma Benign.coherent_found {v : Visit σ} (hv : v.Benign) {w : World σ}
    (hs : Dependable w.store) (hc : w.Coherent) (pause : Nat) : (v.found w pause).Coherent := by
  have hrecords : (v.found w pause).records = w.records := (hv w.store hs).2
  refine ⟨fun domain kept hkept => ?_, fun s kept hkept => ?_⟩
  · rw [hrecords]
    exact hc.byDomain domain kept hkept
  · rw [hrecords]
    exact hc.byStatus s kept hkept

end Visit

/-- One call after another, with any time between them and while they run. -/
inductive Session : World σ → List (Visit σ) → List CallResult → World σ → Prop where
  | done (w : World σ) : Session w [] [] w
  | visit {w w₁ w' : World σ} {v : Visit σ} {visits : List (Visit σ)} {answer : CallResult}
      {answers : List CallResult} (pause : Nat) :
      Relation.ReflTransGen World.Paced
        (v.found w pause, v.call.program v.registry) (w₁, .done answer) →
      Session w₁ visits answers w' → Session w (v :: visits) (answer :: answers) w'

namespace Session

def swift (w : World σ) : List (Visit σ) → List CallResult × World σ
  | [] => ([], w)
  | v :: visits =>
    let (answer, w) := (v.found w 0).run (v.call.program v.registry)
    let (answers, w) := swift w visits
    (answer :: answers, w)

omit [LawfulStore σ] in
lemma session_swift (w : World σ) (visits : List (Visit σ)) :
    Session w visits (swift w visits).1 (swift w visits).2 := by
  induction visits generalizing w with
  | nil => exact .done w
  | cons v visits ih => exact .visit 0 ((v.found w 0).run_paced _) (ih _)

/-- Over one store, caches that agree with it answer alike and leave the same store. -/
theorem unique {visits : List (Visit σ)} (hb : ∀ v ∈ visits, v.registry.Batched)
    (hv : ∀ v ∈ visits, v.Benign) {w w₀ w' w₀' : World σ} {answers answers₀ : List CallResult}
    (hsame : w.store = w₀.store) (hs : Dependable w.store) (hc : w.Coherent) (hc₀ : w₀.Coherent)
    (h : Session w visits answers w') (h₀ : Session w₀ visits answers₀ w₀') :
    answers = answers₀ ∧ w'.store = w₀'.store := by
  induction h generalizing w₀ answers₀ with
  | done w =>
    cases h₀
    exact ⟨rfl, hsame⟩
  | @visit w w₁ w' v visits answer answers pause hrun hrest ih =>
    obtain ⟨hbv, hb⟩ := List.forall_mem_cons.mp hb
    obtain ⟨hbenign, hv⟩ := List.forall_mem_cons.mp hv
    cases h₀ with
    | @visit _ w₂ _ _ _ answer₀ answers₀ pause₀ hrun₀ hrest₀ =>
      have hs₀ : Dependable w₀.store := hsame ▸ hs
      have hfound : (v.found w₀ pause₀).store = (v.found w pause).store :=
        congrArg v.before hsame.symm
      -- both calls start over the same store, which determines how they end
      obtain ⟨a, s', hs', hyields⟩ := v.call.determined hbv (hbenign w.store hs).1
      have hyields₀ : (v.call.program v.registry).Yields a s' true true
          (v.found w₀ pause₀).store := by
        rw [hfound]
        exact hyields
      obtain ⟨rfl, hstore, hc₁⟩ := World.paced_of_yields (w := v.found w pause) hyields
        (hbenign w.store hs).1 (hbenign.coherent_found hs hc pause) hrun
      obtain ⟨rfl, hstore₀, hc₂⟩ := World.paced_of_yields hyields₀
        (hbenign w₀.store hs₀).1 (hbenign.coherent_found hs₀ hc₀ pause₀) hrun₀
      obtain ⟨rfl, hend⟩ := ih hb hv (hstore.trans hstore₀.symm) (hstore ▸ hs') hc₁ hc₂ hrest₀
      exact ⟨rfl, hend⟩

/-- Calls on a registry, one after another, with any time between them and while they run, over
a store whose reads succeed, while writes fail or succeed as the store will: with a cache of any
duration and with none, they are answered alike at every step and leave the same store. -/
theorem caching_unobservable {visits : List (Visit σ)} (hb : ∀ v ∈ visits, v.registry.Batched)
    (hv : ∀ v ∈ visits, v.Benign) {s : σ} (hs : Dependable s) (ttl : Nat) :
    (∃ answers w', Session (.opened s ttl) visits answers w') ∧
    (∃ answers w', Session (.opened s 0) visits answers w') ∧
    ∀ answers answers₀ w' w₀', Session (.opened s ttl) visits answers w' →
      Session (.opened s 0) visits answers₀ w₀' → answers = answers₀ ∧ w'.store = w₀'.store := by
  refine ⟨⟨_, _, session_swift _ _⟩, ⟨_, _, session_swift _ _⟩, fun _ _ _ _ h h₀ => ?_⟩
  have hsame : (World.opened s ttl).store = (World.opened s 0).store := rfl
  exact unique hb hv hsame hs (World.coherent_opened s ttl) (World.coherent_opened s 0) h h₀

end Session

namespace MemoryStore

lemma down_afterWrites (s : MemoryStore) (batches : List (List Record)) :
    (RecordStore.afterWrites s batches).down = s.down := by
  induction batches generalizing s with
  | nil => rfl
  | cons batch more ih =>
    rw [RecordStore.afterWrites, ih, write_withinDeadline]
    split
    · rfl
    · unfold writeBatch
      split <;> rfl

lemma dependable_iff {s : MemoryStore} :
    Dependable s ↔ s.down = false ∧ s.records.Keyed := by
  refine ⟨fun h => ⟨?_, h.keyed⟩, fun ⟨hdown, hk⟩ => ?_⟩
  · obtain ⟨rs, hrs⟩ := h.all []
    by_contra hdown
    change s.answer _ = _ at hrs
    rw [answer, if_pos (eq_true_of_ne_false hdown)] at hrs
    cases hrs
  · have hanswer : ∀ (batches : List (List Record)) {γ : Type} (c : γ),
        (RecordStore.afterWrites s batches).answer c = .ok c := by
      intro batches γ c
      rw [answer, down_afterWrites, hdown]
      rfl
    exact ⟨hk, fun batches _ => ⟨_, hanswer batches _⟩, fun batches _ => ⟨_, hanswer batches _⟩,
      fun batches => ⟨_, hanswer batches _⟩⟩

end MemoryStore

namespace Session

/-- A domain is asked about before and after it is made preloaded, which fails the first time. -/
def retried : List (Visit MemoryStore) :=
  let registry := Registry.listing ⟨[]⟩
  let ask : Visit MemoryStore := { registry, call := .status "a.example" }
  let write (left : Option Nat) : Visit MemoryStore :=
    { registry, call := .operate (.setPreloaded "a.example"),
      before := fun s => { s with writesLeft := left } }
  [ask, write (some 0), ask, write none, ask, ask]

theorem swift_retried :
    (swift (.opened ({} : MemoryStore) 1000) retried).1 =
        (swift (.opened ({} : MemoryStore) 0) retried).1 ∧
      (swift (.opened ({} : MemoryStore) 0) retried).1[5]? =
        some (.view (.ok ⟨{ name := "a.example", status := .preloaded }, false,
          some "a.example"⟩)) := by
  have hb : ∀ v ∈ retried, v.registry.Batched := by
    intro v hmem
    simp only [retried, List.mem_cons, List.not_mem_nil, or_false] at hmem
    rcases hmem with rfl | rfl | rfl | rfl | rfl | rfl <;> rfl
  have hv : ∀ v ∈ retried, v.Benign := by
    intro v hmem s hs
    have hs' := MemoryStore.dependable_iff.mp hs
    simp only [retried, List.mem_cons, List.not_mem_nil, or_false] at hmem
    rcases hmem with rfl | rfl | rfl | rfl | rfl | rfl <;>
      exact ⟨MemoryStore.dependable_iff.mpr hs', rfl⟩
  have hs : Dependable ({} : MemoryStore) :=
    MemoryStore.dependable_iff.mpr ⟨rfl, Records.keyed_empty⟩
  obtain ⟨-, -, hsame⟩ := caching_unobservable hb hv hs 1000
  exact ⟨(hsame _ _ _ _ (session_swift _ _) (session_swift _ _)).1, rfl⟩

end Session

end HstsPreload
