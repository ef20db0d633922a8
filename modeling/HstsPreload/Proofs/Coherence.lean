import HstsPreload.Proofs.Freshness

/-!
# Reads through a cache that agrees with the store

Right after a write has ended the cache is empty, and so agrees with the store. As long as
nobody writes it goes on to agree, and what is read through it is what the store holds.
-/

namespace HstsPreload

open Program

variable {σ α β : Type} [RecordStore σ] [LawfulStore σ]

/-- Whatever is in the cache, the store holds. -/
structure World.Coherent (w : World σ) : Prop where
  byDomain (domain : String) (kept : Kept Record) :
    w.cache.byDomain[domain]? = some kept → w.records.get domain = kept.value
  byStatus (s : Status) (kept : Kept (List Record)) :
    w.cache.byStatus s = some kept → w.records.withStatus s = kept.value

/-- Nothing is in the cache. -/
structure Cache.Cold (c : Cache) : Prop where
  byDomain : c.byDomain = ∅
  byStatus : c.byStatus = fun _ => none

lemma Cache.cold_invalidate (c : Cache) : c.invalidate.Cold :=
  ⟨rfl, rfl⟩

lemma Cache.Cold.coherent {w : World σ} (h : w.cache.Cold) : w.Coherent := by
  constructor
  · intro domain kept hkept
    rw [h.byDomain] at hkept
    simp at hkept
  · intro s kept hkept
    rw [h.byStatus] at hkept
    cases hkept

/-- A program that ends by emptying the cache leaves it empty, unless its answer is excused. -/
lemma World.cold_of_steps {excused : α → Prop} {w w' : World σ} {p : Program α} {a : α}
    (h : Relation.ReflTransGen World.Step (w, p) (w', .done a)) (hp : p.Empties excused)
    (ha : ¬excused a) : w'.cache.Cold := by
  have hend : (Program.done a).Empties excused ∨
      (∃ b, Program.done a = .done b) ∧ w'.cache.Cold := by
    refine holds_along (P := fun x : World σ × Program α =>
      x.2.Empties excused ∨ (∃ b, x.2 = .done b) ∧ x.1.cache.Cold) ?_ h (.inl hp)
    intro x y hstep hx
    cases hstep with
    | drift p hd => exact hx.imp_right fun ⟨hdone, hcold⟩ => ⟨hdone, hd.2.1 ▸ hcold⟩
    | access w₁ access next =>
      rcases hx with hempties | ⟨⟨b, hdone⟩, -⟩
      · rcases hempties (w₁.answer access).1 with ⟨rfl, hdone⟩ | hnext
        · exact .inr ⟨hdone, Cache.cold_invalidate _⟩
        · exact .inl hnext
      · cases hdone
  exact (hend.resolve_left ha).2

namespace Access

/-- What an access tells of the records `rs`, from the store or through a coherent cache. -/
def Reads (rs : Records) : (a : Access) → a.Answer → Prop
  | .cached domain, answer => ∀ r, answer = some r → r = rs.get domain
  | .cachedList s, answer => ∀ found, answer = some found → found = rs.withStatus s
  | .load domain, answer => ∀ r, answer = .ok r → r = rs.get domain
  | .loadList s, answer => ∀ found, answer = .ok found → found = rs.withStatus s
  | .loadAll, answer => ∀ found, answer = .ok found → found = rs.inOrder
  | _, _ => True

/-- An access that neither writes nor puts anything into the cache that the store does not
hold. -/
def Harmless (rs : Records) : Access → Prop
  | .commit _ => False
  | .keep _ r => rs.get r.name = r
  | .keepList _ s found => rs.withStatus s = found
  | _ => True

end Access

namespace World.Coherent

variable {w : World σ}

lemma reads_answer (h : w.Coherent) (a : Access) : a.Reads w.records (w.answer a).1 := by
  cases a with
  | cached domain =>
    intro r hr
    obtain ⟨kept, hkept, rfl⟩ := Cache.exists_of_find? hr
    exact (h.byDomain domain kept hkept).symm
  | cachedList s =>
    intro found hfound
    obtain ⟨kept, hkept, rfl⟩ := Cache.exists_of_withStatus? hfound
    exact (h.byStatus s kept hkept).symm
  | load domain => exact fun r hr => LawfulStore.find_ok hr
  | loadList s => exact fun found hfound => LawfulStore.withStatus_ok hfound
  | loadAll => exact fun found hfound => LawfulStore.all_ok hfound
  | _ => trivial

lemma answer (h : w.Coherent) {a : Access} (ha : a.Harmless w.records) :
    (w.answer a).2.records = w.records ∧ (w.answer a).2.Coherent := by
  cases a with
  | commit batch => exact ha.elim
  | keep g r =>
    refine ⟨rfl, fun domain kept hkept => ?_, fun s kept hkept => ?_⟩
    · rcases Cache.of_byDomain_keep hkept with hold | ⟨-, rfl, rfl⟩
      · exact h.byDomain domain kept hold
      · exact ha
    · exact h.byStatus s kept ((congrFun (Cache.byStatus_keep r) s).symm.trans hkept)
  | keepList g s found =>
    refine ⟨rfl, fun domain kept hkept => ?_, fun t kept hkept => ?_⟩
    · exact h.byDomain domain kept (Cache.byDomain_keepList (c := w.cache) s found ▸ hkept)
    · rcases Cache.of_byStatus_keepList hkept with hold | ⟨-, rfl, rfl⟩
      · exact h.byStatus t kept hold
      · exact ha
  | invalidate => exact ⟨rfl, (Cache.cold_invalidate w.cache).coherent⟩
  | _ => exact ⟨rfl, h⟩

end World.Coherent

namespace Program

variable {rs : Records} {post : α → Prop}

/-- A program that does no harm, and whose answer satisfies `post` if what it is told is true of
the records `rs`. -/
def Reports (rs : Records) (post : α → Prop) : Program α → Prop
  | .done a => post a
  | .step a next => a.Harmless rs ∧ ∀ answer, a.Reads rs answer → (next answer).Reports rs post

namespace Reports

lemma bind {mid : β → Prop} {p : Program β} {f : β → Program α} (h : p.Reports rs mid)
    (hf : ∀ b, mid b → (f b).Reports rs post) : (p >>= f).Reports rs post := by
  induction p with
  | done b => exact hf b h
  | step a next ih => exact ⟨h.1, fun answer ha => ih answer (h.2 answer ha)⟩

/-- What a program reports over a coherent cache is true of the store. -/
theorem steps {w w' : World σ} {p : Program α} {a : α} (h : p.Reports w.records post)
    (hw : w.Coherent) (hs : Relation.ReflTransGen World.Step (w, p) (w', .done a)) : post a := by
  have hend : w'.records = w.records ∧ w'.Coherent ∧
      (Program.done a).Reports w.records post := by
    refine World.holds_along (P := fun x : World σ × Program α =>
      x.1.records = w.records ∧ x.1.Coherent ∧ x.2.Reports w.records post) ?_ hs ⟨rfl, hw, h⟩
    rintro x y hstep ⟨hr, hc, hp⟩
    -- nothing is written on the way, so `w` tells the records of every moment
    cases hstep with
    | @drift w₁ w₂ p hd =>
      refine ⟨hd.1.trans hr, ⟨fun domain kept hkept => ?_, fun s kept hkept => ?_⟩, hp⟩
      · rw [hd.1]
        exact hc.byDomain domain kept (hd.2.1 ▸ hkept)
      · rw [hd.1]
        exact hc.byStatus s kept (hd.2.1 ▸ hkept)
    | access w₁ access next =>
      rw [← hr] at hp ⊢
      obtain ⟨hr', hc'⟩ := hc.answer hp.1
      exact ⟨hr', hc', hp.2 _ (hc.reads_answer access)⟩
  exact hend.2.2

end Reports

end Program

namespace Registry

variable {rs : Records}

lemma reports_cachedRecord (hk : rs.Keyed) (domain : String) :
    (cachedRecord domain).Reports rs fun answer => ∀ r, answer = .ok r → r = rs.get domain := by
  refine ⟨trivial, fun answer hcached => ?_⟩
  cases answer with
  | some r =>
    rintro r' ⟨⟩
    exact hcached r rfl
  | none =>
    refine ⟨trivial, fun g _ => ⟨trivial, fun answer hloaded => ?_⟩⟩
    cases answer with
    | error fault => exact fun r hr => by cases hr
    | ok r =>
      have hr : r = rs.get domain := hloaded r rfl
      subst hr
      refine ⟨congrArg rs.get (hk.name_get domain), fun _ _ => ?_⟩
      rintro r' ⟨⟩
      rfl

/-- A record that covers the domains below its own. -/
def Covers (rs : Records) (ancestor : String) : Prop :=
  (rs.get ancestor).status = .preloaded ∧ (rs.get ancestor).includeSubDomains = true

lemma reports_coveringAmong (hk : rs.Keyed) (candidates : List String) :
    (coveringAmong candidates).Reports rs fun answer =>
      ∀ ancestor, answer = some ancestor → Covers rs ancestor := by
  induction candidates with
  | nil => exact fun ancestor h => by cases h
  | cons candidate more ih =>
    unfold coveringAmong
    refine (reports_cachedRecord hk candidate).bind fun answer hread => ?_
    cases answer with
    | error fault => exact ih
    | ok r =>
      have hr : r = rs.get candidate := hread r rfl
      subst hr
      dsimp only
      split
      · next hcovers =>
        rintro ancestor ⟨⟩
        exact hcovers
      · exact ih

lemma reports_status (hk : rs.Keyed) (domain : String) :
    (status domain).Reports rs fun answer => ∀ view ancestor, answer = .ok view →
      view.preloadedDomain = some ancestor → ancestor ≠ domain → Covers rs ancestor := by
  unfold status
  refine (reports_cachedRecord hk domain).bind fun answer hread => ?_
  cases answer with
  | error fault => exact fun view ancestor h => by cases h
  | ok r =>
    dsimp only
    split
    · refine (reports_coveringAmong hk _).bind fun answer hcovering => ?_
      cases answer with
      | none => rintro view ancestor ⟨⟩ h; cases h
      | some found =>
        rintro view ancestor ⟨⟩ h _
        exact hcovering ancestor h
    · split
      · rintro view ancestor ⟨⟩ h hne
        exact (hne (Option.some.inj h).symm).elim
      · rintro view ancestor ⟨⟩ h
        cases h

end Registry

end HstsPreload
