import HstsPreload.Proofs.Interleaving
import HstsPreload.Proofs.Records

/-!
# What programs owe each other

A contract says what a program may rely on between its accesses and what each of its own
accesses owes to the others. A program keeps a contract if it does so whatever the store
answers, failures included. Programs that keep one contract may be interleaved at will.
-/

namespace HstsPreload

/-- What an access may answer over some records, and the records after it. -/
def Access.Answers : (a : Access) → Records → a.Answer → Records → Prop
  | .load domain, rs, answer, rs' => rs' = rs ∧ ∀ r, answer = .ok r → r = rs.get domain
  | .loadList s, rs, answer, rs' => rs' = rs ∧ ∀ found, answer = .ok found → found = rs.withStatus s
  | .loadAll, rs, answer, rs' => rs' = rs ∧ ∀ found, answer = .ok found → found = rs.inOrder
  | .commit batch, rs, answer, rs' =>
    (answer = .ok () ∧ rs' = rs.putAll batch) ∨ (∃ fault, answer = .error fault) ∧ rs' = rs
  | .cached _, rs, _, rs' | .cachedList _, rs, _, rs' | .generation, rs, _, rs'
  | .check, rs, _, rs' | .keep _ _, rs, _, rs' | .keepList _ _ _, rs, _, rs'
  | .invalidate, rs, _, rs' => rs' = rs

def Access.isCommit : Access → Bool
  | .commit _ => true
  | _ => false

lemma Access.exists_answers {a : Access} (h : a.isCommit = false) (rs : Records) :
    ∃ answer, a.Answers rs answer rs := by
  cases a with
  | load domain => exact ⟨.ok (rs.get domain), rfl, fun _ hr => (Except.ok.inj hr).symm⟩
  | loadList s => exact ⟨.ok (rs.withStatus s), rfl, fun _ hr => (Except.ok.inj hr).symm⟩
  | loadAll => exact ⟨.ok rs.inOrder, rfl, fun _ hr => (Except.ok.inj hr).symm⟩
  | commit batch => cases h
  | cached domain => exact ⟨none, rfl⟩
  | cachedList s => exact ⟨none, rfl⟩
  | generation => exact ⟨0, rfl⟩
  | check => exact ⟨.ok (), rfl⟩
  | keep g r => exact ⟨(), rfl⟩
  | keepList g s rs => exact ⟨(), rfl⟩
  | invalidate => exact ⟨(), rfl⟩

lemma World.answers_answer {σ : Type} [RecordStore σ] [LawfulStore σ] (w : World σ) (a : Access) :
    a.Answers w.records (w.answer a).1 (w.answer a).2.records := by
  cases a with
  | load domain => exact ⟨rfl, fun _ h => LawfulStore.find_ok h⟩
  | loadList s => exact ⟨rfl, fun _ h => LawfulStore.withStatus_ok h⟩
  | loadAll => exact ⟨rfl, fun _ h => LawfulStore.all_ok h⟩
  | commit batch =>
    cases h : (RecordStore.write w.store batch).withinDeadline.1 with
    | ok u => exact .inl ⟨h, LawfulStore.write_ok h⟩
    | error fault => exact .inr ⟨⟨fault, h⟩, LawfulStore.write_error h⟩
  | _ => exact rfl

lemma Access.Answers.keyed {a : Access} {rs rs' : Records} {answer : a.Answer}
    (h : a.Answers rs answer rs') (hk : rs.Keyed) : rs'.Keyed := by
  cases a with
  | load domain | loadList s | loadAll => exact h.1 ▸ hk
  | commit batch =>
    rcases h with ⟨-, hput⟩ | ⟨-, hsame⟩
    · exact hput ▸ hk.putAll batch
    · exact hsame ▸ hk
  | _ => exact Eq.subst (motive := Records.Keyed) h.symm hk

theorem World.keyed_of_steps {σ α : Type} [RecordStore σ] [LawfulStore σ] {w w' : World σ}
    {p p' : Program α} (h : Relation.ReflTransGen World.Step (w, p) (w', p'))
    (hk : w.records.Keyed) : w'.records.Keyed := by
  refine holds_along (P := fun x : World σ × Program α => x.1.records.Keyed) ?_ h hk
  intro x y hstep hx
  cases hstep with
  | drift _ hd => exact hd.1 ▸ hx
  | access w₁ a next => exact (w₁.answers_answer a).keyed hx

/-- What others may do between the accesses of a program, and what the program does to the
others with each access. -/
structure Contract where
  rely : Records → Records → Prop
  guarantee : Records → Records → Prop
  rely_refl : ∀ rs, rely rs rs
  rely_trans : ∀ {rs rs' rs''}, rely rs rs' → rely rs' rs'' → rely rs rs''
  guarantee_refl : ∀ rs, guarantee rs rs

namespace Contract

/-- Nobody else writes, and all records in between satisfy `during`. -/
def alone (during : Records → Prop) : Contract where
  rely := Eq
  guarantee rs rs' := during rs → during rs'
  rely_refl _ := rfl
  rely_trans := Eq.trans
  guarantee_refl _ := id

/-- Everybody moves the records along one preorder. -/
def shared (later : Records → Records → Prop) (refl : ∀ rs, later rs rs)
    (trans : ∀ {rs rs' rs''}, later rs rs' → later rs' rs'' → later rs rs'') : Contract where
  rely := later
  guarantee := later
  rely_refl := refl
  rely_trans := trans
  guarantee_refl := refl

end Contract

namespace Program

variable {α β : Type} {c : Contract} {post : Records → α → Prop}

/-- From some records on, a program does what it owes as long as the others do, and its answer
satisfies `post` whenever the program has come to an end. -/
def Keeps (c : Contract) (post : Records → α → Prop) : Program α → Records → Prop
  | .done a, rs => ∀ rs', c.rely rs rs' → post rs' a
  | .step a next, rs => ∀ rs' answer rs'', c.rely rs rs' → a.Answers rs' answer rs'' →
      c.guarantee rs' rs'' ∧ (next answer).Keeps c post rs''

namespace Keeps

lemma later {p : Program α} {rs rs' : Records} (h : p.Keeps c post rs) (hr : c.rely rs rs') :
    p.Keeps c post rs' := by
  cases p with
  | done a => exact fun rs'' hr' => h rs'' (c.rely_trans hr hr')
  | step a next => exact fun rs₁ answer rs₂ hr' => h rs₁ answer rs₂ (c.rely_trans hr hr')

lemma mono {post' : Records → α → Prop} {p : Program α} {rs : Records}
    (h : p.Keeps c post rs) (hp : ∀ rs' a, post rs' a → post' rs' a) : p.Keeps c post' rs := by
  induction p generalizing rs with
  | done a => exact fun rs' hr => hp rs' a (h rs' hr)
  | step a next ih =>
    intro rs' answer rs'' hr ha
    obtain ⟨hg, hn⟩ := h rs' answer rs'' hr ha
    exact ⟨hg, ih answer hn⟩

lemma bind {mid : Records → β → Prop} {p : Program β} {f : β → Program α} {rs : Records}
    (h : p.Keeps c mid rs) (hf : ∀ rs' b, mid rs' b → (f b).Keeps c post rs') :
    (p >>= f).Keeps c post rs := by
  induction p generalizing rs with
  | done b => exact hf rs b (h rs (c.rely_refl rs))
  | step a next ih =>
    intro rs' answer rs'' hr ha
    obtain ⟨hg, hn⟩ := h rs' answer rs'' hr ha
    exact ⟨hg, ih answer hn⟩

lemma pure {a : α} {rs : Records} (h : ∀ rs', c.rely rs rs' → post rs' a) :
    (Pure.pure a : Program α).Keeps c post rs := h

lemma load {domain : String} {next : Except StoreFault Record → Program α} {rs : Records}
    (hok : ∀ rs', c.rely rs rs' → (next (.ok (rs'.get domain))).Keeps c post rs')
    (herror : ∀ rs' fault, c.rely rs rs' → (next (.error fault)).Keeps c post rs') :
    (access (.load domain) >>= next).Keeps c post rs := by
  rintro rs' answer _ hr ⟨rfl, ha⟩
  refine ⟨c.guarantee_refl _, ?_⟩
  cases answer with
  | ok r => rw [ha r rfl]; exact hok _ hr
  | error fault => exact herror _ fault hr

lemma loadList {s : Status} {next : Except StoreFault (List Record) → Program α} {rs : Records}
    (hok : ∀ rs', c.rely rs rs' → (next (.ok (rs'.withStatus s))).Keeps c post rs')
    (herror : ∀ rs' fault, c.rely rs rs' → (next (.error fault)).Keeps c post rs') :
    (access (.loadList s) >>= next).Keeps c post rs := by
  rintro rs' answer _ hr ⟨rfl, ha⟩
  refine ⟨c.guarantee_refl _, ?_⟩
  cases answer with
  | ok found => rw [ha found rfl]; exact hok _ hr
  | error fault => exact herror _ fault hr

lemma commit {batch : List Record} {next : Except StoreFault Unit → Program α} {rs : Records}
    (hok : ∀ rs', c.rely rs rs' → c.guarantee rs' (rs'.putAll batch) ∧
      (next (.ok ())).Keeps c post (rs'.putAll batch))
    (herror : ∀ rs' fault, c.rely rs rs' → (next (.error fault)).Keeps c post rs') :
    (access (.commit batch) >>= next).Keeps c post rs := by
  rintro rs' answer rs'' hr (⟨rfl, rfl⟩ | ⟨⟨fault, rfl⟩, rfl⟩)
  · exact hok rs' hr
  · exact ⟨c.guarantee_refl _, herror _ fault hr⟩

lemma invalidate {next : Unit → Program α} {rs : Records}
    (h : ∀ rs', c.rely rs rs' → (next ()).Keeps c post rs') :
    (access .invalidate >>= next).Keeps c post rs := by
  rintro rs' ⟨⟩ _ hr rfl
  exact ⟨c.guarantee_refl _, h _ hr⟩

variable {σ : Type} [RecordStore σ] [LawfulStore σ]

lemma step {w w' : World σ} {p p' : Program α} (h : p.Keeps c post w.records)
    (hs : World.Step (w, p) (w', p')) :
    c.guarantee w.records w'.records ∧ p'.Keeps c post w'.records := by
  cases hs with
  | drift _ hd =>
    rw [hd.1]
    exact ⟨c.guarantee_refl _, h⟩
  | access _ a next => exact h _ _ _ (c.rely_refl _) (w.answers_answer a)

/-- All that happens on the way of a program that runs alone satisfies `during`. -/
lemma steps {during : Records → Prop} {w w' : World σ} {p p' : Program α}
    (h : p.Keeps (.alone during) post w.records) (hw : during w.records)
    (hs : Relation.ReflTransGen World.Step (w, p) (w', p')) :
    during w'.records ∧ p'.Keeps (.alone during) post w'.records := by
  -- what is left of the program keeps the contract from the current records on
  refine World.holds_along (P := fun x : World σ × Program α =>
    during x.1.records ∧ x.2.Keeps (.alone during) post x.1.records) ?_ hs ⟨hw, h⟩
  rintro ⟨w₁, p₁⟩ ⟨w₂, p₂⟩ hstep ⟨hd, hk⟩
  obtain ⟨hg, hk'⟩ := hk.step hstep
  exact ⟨hg hd, hk'⟩

lemma run {during : Records → Prop} {w : World σ} {p : Program α}
    (h : p.Keeps (.alone during) post w.records) (hw : during w.records) :
    post (w.run p).2.records (w.run p).1 :=
  (h.steps hw (w.run_steps p)).2 _ rfl

/-- Programs that keep one contract may be interleaved in any order. -/
theorem interleaved (hc : ∀ rs rs', c.guarantee rs rs' → c.rely rs rs') {w w' : World σ}
    {threads threads' : List (Program α)} (h : ∀ p ∈ threads, p.Keeps c post w.records)
    (hs : Relation.ReflTransGen World.Interleaved (w, threads) (w', threads')) :
    c.rely w.records w'.records ∧ ∀ p ∈ threads', p.Keeps c post w'.records := by
  refine World.holds_along (P := fun x : World σ × List (Program α) =>
    c.rely w.records x.1.records ∧ ∀ p ∈ x.2, p.Keeps c post x.1.records) ?_ hs
    ⟨c.rely_refl _, h⟩
  rintro - - ⟨i, hi, hone⟩ ⟨hr, hk⟩
  obtain ⟨hg, hp'⟩ := (hk _ (List.mem_of_getElem? hi)).step hone
  refine ⟨c.rely_trans hr (hc _ _ hg), fun q hq => ?_⟩
  -- the others only see that the records have moved on
  rcases List.mem_or_eq_of_mem_set hq with hq | rfl
  · exact (hk q hq).later (hc _ _ hg)
  · exact hp'

end Keeps

/-- A program that writes no more and whose answer, whatever it is told, satisfies `post`. -/
def Settled (post : α → Prop) : Program α → Prop
  | .done a => post a
  | .step a next => a.isCommit = false ∧ ∀ answer, (next answer).Settled post

lemma Settled.map (f : α → β) {p : Program α} (h : p.Settled fun _ => True) :
    (p >>= fun a => Pure.pure (f a)).Settled fun _ => True := by
  induction p with
  | done a => trivial
  | step a next ih => exact ⟨h.1, fun answer => ih answer (h.2 answer)⟩

/-- What a program that writes no more ends with holds already. -/
lemma Keeps.of_settled {post' : α → Prop} {p : Program α} {rs : Records}
    (h : p.Keeps c post rs) (hs : p.Settled post') : ∃ a, post' a ∧ post rs a := by
  induction p with
  | done a => exact ⟨a, hs, h rs (c.rely_refl rs)⟩
  | step a next ih =>
    obtain ⟨answer, ha⟩ := Access.exists_answers hs.1 rs
    exact ih answer (h rs answer rs (c.rely_refl rs) ha).2 (hs.2 answer)

end Program

end HstsPreload
