import HstsPreload.Proofs.Contract
import HstsPreload.Proofs.Records
import HstsPreload.Registry.Update

/-!
# What the writer and the update owe

Rules for the programs that write: one for the writer of batches, in terms of what is known
while some batches are left, and the rules that follow for a single record and for updates.
-/

namespace HstsPreload

open Program

namespace Writer

lemma flatten_drop_chunksFrom {α : Type} {size : Nat} (hsize : 0 < size) (fuel : Nat)
    (xs : List α) (hf : xs.length ≤ fuel) (j : Nat) :
    ((chunksFrom size fuel xs).drop j).flatten = xs.drop (size * j) := by
  induction fuel generalizing xs j with
  | zero =>
    have hx : xs = [] := List.eq_nil_of_length_eq_zero (by omega)
    simp [chunksFrom, hx]
  | succ fuel ih =>
    rw [chunksFrom]
    split
    · next hx => simp [hx]
    · next hx =>
      have hrest : (xs.drop size).length ≤ fuel := by
        have hpos := List.length_pos_iff.mpr hx
        rw [List.length_drop]
        omega
      cases j with
      | zero =>
        have h := ih (xs.drop size) hrest 0
        rw [Nat.mul_zero, List.drop_zero, List.drop_zero] at h
        rw [Nat.mul_zero, List.drop_zero, List.drop_zero, List.flatten_cons, h,
          List.take_append_drop]
      | succ j =>
        rw [List.drop_succ_cons, ih _ hrest, List.drop_drop]
        congr 1
        rw [Nat.mul_succ, Nat.add_comm]

lemma flatten_drop_batches (updates : List Record) (j : Nat) :
    ((batches updates).drop j).flatten = updates.drop (batchSize * j) :=
  flatten_drop_chunksFrom (by decide) _ _ (Nat.le_refl _) j

lemma flatten_batches (updates : List Record) : (batches updates).flatten = updates := by
  have h := flatten_drop_batches updates 0
  rwa [Nat.mul_zero, List.drop_zero, List.drop_zero] at h

lemma flatten_take_batches (updates : List Record) (j : Nat) :
    ((batches updates).take j).flatten = updates.take (batchSize * j) := by
  have h := congrArg List.flatten (List.take_append_drop j (batches updates))
  rw [List.flatten_append, flatten_drop_batches, flatten_batches] at h
  exact List.append_cancel_right (h.trans (List.take_append_drop _ updates).symm)

lemma ne_nil_of_mem_chunksFrom {α : Type} {size : Nat} (hsize : 0 < size) (fuel : Nat)
    (xs : List α) : ∀ chunk ∈ chunksFrom size fuel xs, chunk ≠ [] := by
  induction fuel generalizing xs with
  | zero => simp [chunksFrom]
  | succ fuel ih =>
    rw [chunksFrom]
    split
    · simp
    · next hx =>
      rintro chunk (_ | ⟨_, h⟩)
      · rw [Ne, List.take_eq_nil_iff, not_or]
        exact ⟨Nat.ne_of_gt hsize, hx⟩
      · exact ih _ chunk h

lemma lt_length_of_drop_batches {updates : List Record} {j : Nat}
    (h : (batches updates).drop j ≠ []) : batchSize * j < updates.length := by
  obtain ⟨batch, left, hd⟩ := List.exists_cons_of_ne_nil h
  have hne : batch ≠ [] := ne_nil_of_mem_chunksFrom (by decide) _ _ batch
    (List.mem_of_mem_drop (hd ▸ List.mem_cons_self))
  have hf := flatten_drop_batches updates j
  rw [hd, List.flatten_cons] at hf
  refine Nat.lt_of_not_le fun hle => ?_
  rw [List.drop_eq_nil_of_le hle] at hf
  exact hne (List.append_eq_nil_iff.mp hf).1

lemma putAll_next_batch (rs : Records) {updates batch : List Record} {left : List (List Record)}
    {j : Nat} (h : (batches updates).drop j = batch :: left) :
    (rs.putAll (updates.take (batchSize * j))).putAll batch =
      rs.putAll (updates.take (batchSize * (j + 1))) := by
  have hj : (batches updates)[j]? = some batch := by
    rw [← List.head?_drop, h, List.head?_cons]
  rw [← Records.putAll_append, ← flatten_take_batches, ← flatten_take_batches, List.take_add_one,
    hj, List.flatten_append]
  simp

/-- A rule for writing batches: `left` batches remain, and the records satisfy `known left`. -/
theorem keeps_commitAll {c : Contract} (known : List (List Record) → Records → Prop)
    (stable : ∀ left rs rs', known left rs → c.rely rs rs' → known left rs')
    (write : ∀ batch left rs, known (batch :: left) rs →
      c.guarantee rs (rs.putAll batch) ∧ known left (rs.putAll batch))
    (batches : List (List Record)) (rs : Records) (h : known batches rs) :
    (commitAll batches).Keeps c (fun rs' report =>
      (report.outcome = .ok () ∧ known [] rs') ∨
      ∃ fault left, report.outcome = .error fault ∧ left ≠ [] ∧ known left rs') rs := by
  induction batches generalizing rs with
  | nil => exact Keeps.pure fun rs' hr => .inl ⟨rfl, stable _ _ _ h hr⟩
  | cons batch left ih =>
    refine Keeps.commit (fun rs' hr => ?_) (fun rs' fault hr => ?_)
    · obtain ⟨hg, hk⟩ := write batch left rs' (stable _ _ _ h hr)
      refine ⟨hg, Keeps.bind (ih _ hk) fun rs₁ report hend => Keeps.pure fun rs₂ hr₂ => ?_⟩
      rcases hend with ⟨ho, hk'⟩ | ⟨fault, rest, ho, hne, hk'⟩
      · exact .inl ⟨ho, stable _ _ _ hk' hr₂⟩
      · exact .inr ⟨fault, rest, ho, hne, stable _ _ _ hk' hr₂⟩
    · -- the batch that was not stored is still among those that are left
      refine Keeps.pure fun rs₁ hr₁ => .inr ⟨fault, batch :: left, rfl, List.cons_ne_nil _ _, ?_⟩
      exact stable _ _ _ h (c.rely_trans hr hr₁)

theorem keeps_putAll {c : Contract} (known : List (List Record) → Records → Prop)
    (stable : ∀ left rs rs', known left rs → c.rely rs rs' → known left rs')
    (write : ∀ batch left rs, known (batch :: left) rs →
      c.guarantee rs (rs.putAll batch) ∧ known left (rs.putAll batch))
    (updates : List Record) (rs : Records) (h : known (batches updates) rs) :
    (putAll updates).Keeps c (fun rs' report =>
      (report.outcome = .ok () ∧ known [] rs') ∨
      ∃ fault left, report.outcome = .error fault ∧ left ≠ [] ∧ known left rs') rs := by
  unfold putAll
  split
  · next he =>
    rw [List.isEmpty_iff.mp he] at h
    exact Keeps.pure fun rs' hr => .inl ⟨rfl, stable _ _ _ h hr⟩
  · exact keeps_commitAll known stable write _ _ h

end Writer

lemma Plan.length_updates (p : Plan) : p.updates.length = p.totalUpdates := by
  rw [updates, List.length_append, List.length_append, totalUpdates]

namespace Registry

variable {c : Contract}

/-- Several records are written in batches, as by every store that brings no writer of its own. -/
def Batched (reg : Registry) : Prop :=
  reg.put = Writer.putAll

lemma keeps_persist {reg : Registry} (hb : reg.Batched) (r : Record) {rs : Records}
    {post : Records → Except StoreFault Unit → Prop}
    (hsaved : ∀ rs', c.rely rs rs' → c.guarantee rs' (rs'.put r) ∧
      ∀ rs'', c.rely (rs'.put r) rs'' → post rs'' (.ok ()))
    (hfailed : ∀ rs' fault, c.rely rs rs' → post rs' (.error fault)) :
    (reg.persist r).Keeps c post rs := by
  unfold persist
  rw [hb]
  change (access (.commit [r]) >>= _).Keeps c post rs
  refine Keeps.commit (fun rs' hr => ⟨(hsaved rs' hr).1, ?_⟩) (fun rs' fault hr => ?_)
  · exact Keeps.invalidate fun rs₁ hr₁ => Keeps.pure fun rs₂ hr₂ =>
      (hsaved rs' hr).2 rs₂ (c.rely_trans hr₁ hr₂)
  · exact Keeps.invalidate fun rs₁ hr₁ => Keeps.pure fun rs₂ hr₂ =>
      hfailed rs₂ fault (c.rely_trans hr (c.rely_trans hr₁ hr₂))

/-- The three queries of an update may be answered at different moments. -/
lemma keeps_planUpdate (reg : Registry) {rs : Records}
    {post : Records → Except UpdateFault Plan → Prop}
    (hplan : ∀ l, reg.list = .ok l → ∀ rs₁ rs₂ rs₃ rs', c.rely rs rs₁ → c.rely rs₁ rs₂ →
      c.rely rs₂ rs₃ → c.rely rs₃ rs' → post rs' (.ok (.build l (rs₁.withStatus .preloaded)
        (rs₂.withStatus .pendingRemoval) (rs₃.withStatus .pendingAutomatedRemoval))))
    (hfailed : ∀ rs' fault, c.rely rs rs' → (∀ told f, fault ≠ .write told f) →
      post rs' (.error fault)) :
    reg.planUpdate.Keeps c post rs := by
  unfold planUpdate
  cases hl : reg.list with
  | error fault => exact Keeps.pure fun rs' hr => hfailed rs' _ hr (by simp)
  | ok l =>
    refine Keeps.loadList (fun rs₁ h₁ => ?_) fun rs₁ f h₁ => Keeps.pure fun rs' hr =>
      hfailed rs' _ (c.rely_trans h₁ hr) (by simp)
    refine Keeps.loadList (fun rs₂ h₂ => ?_) fun rs₂ f h₂ => Keeps.pure fun rs' hr =>
      hfailed rs' _ (c.rely_trans h₁ (c.rely_trans h₂ hr)) (by simp)
    refine Keeps.loadList (fun rs₃ h₃ => ?_) fun rs₃ f h₃ => Keeps.pure fun rs' hr =>
      hfailed rs' _ (c.rely_trans h₁ (c.rely_trans h₂ (c.rely_trans h₃ hr))) (by simp)
    exact Keeps.pure fun rs' hr => hplan l hl rs₁ rs₂ rs₃ rs' h₁ h₂ h₃ hr

/-- How an update that began with the records `start` has ended, and what is known then: it was
written in full, a write failed while some batches were left, or it came to no plan. -/
inductive UpdateEnds (c : Contract) (known : Plan → List (List Record) → Records → Prop)
    (start rs : Records) : Except UpdateFault Nat → Prop where
  | written (p : Plan) : known p [] rs → UpdateEnds c known start rs (.ok p.totalUpdates)
  | brokenOff (p : Plan) (told : Bool) (fault : StoreFault) (left : List (List Record)) :
      left ≠ [] → known p left rs → UpdateEnds c known start rs (.error (.write told fault))
  | unplanned (fault : UpdateFault) : (∀ told f, fault ≠ .write told f) → c.rely start rs →
      UpdateEnds c known start rs (.error fault)

lemma UpdateEnds.of_ok {known : Plan → List (List Record) → Records → Prop} {start rs : Records}
    {n : Nat} (h : UpdateEnds c known start rs (.ok n)) :
    ∃ p, n = p.totalUpdates ∧ known p [] rs := by
  cases h with
  | written p hk => exact ⟨p, rfl, hk⟩

lemma UpdateEnds.of_write_error {known : Plan → List (List Record) → Records → Prop}
    {start rs : Records} {told : Bool} {fault : StoreFault}
    (h : UpdateEnds c known start rs (.error (.write told fault))) :
    ∃ p left, left ≠ [] ∧ known p left rs := by
  cases h with
  | brokenOff p _ _ left hne hk => exact ⟨p, left, hne, hk⟩
  | unplanned _ hne _ => exact (hne told fault rfl).elim

section Updates

variable {reg : Registry} (hb : reg.Batched)
  (known : Plan → List (List Record) → Records → Prop)
  (stable : ∀ p left rs rs', known p left rs → c.rely rs rs' → known p left rs')
  (write : ∀ p batch left rs, known p (batch :: left) rs →
    c.guarantee rs (rs.putAll batch) ∧ known p left (rs.putAll batch))

include stable in
lemma UpdateEnds.later {start rs rs' : Records} {outcome : Except UpdateFault Nat}
    (h : UpdateEnds c known start rs outcome) (hr : c.rely rs rs') :
    UpdateEnds c known start rs' outcome := by
  cases h with
  | written p hk => exact .written p (stable _ _ _ _ hk hr)
  | brokenOff p told fault left hne hk =>
    exact .brokenOff p told fault left hne (stable _ _ _ _ hk hr)
  | unplanned fault hne hu => exact .unplanned fault hne (c.rely_trans hu hr)

include hb stable write

lemma keeps_applyPlan (start : Records) (p : Plan) {rs : Records}
    (h : known p (Writer.batches p.updates) rs) :
    (reg.applyPlan p).Keeps c (fun rs' r => UpdateEnds c known start rs' r.outcome) rs := by
  unfold applyPlan
  rw [hb]
  refine Keeps.bind (Writer.keeps_putAll (known p) (stable p) (write p) _ _ h)
    fun rs₁ report hend => ?_
  refine Keeps.invalidate fun rs₂ h₂ => Keeps.pure fun rs₃ h₃ => ?_
  have h₁₃ := c.rely_trans h₂ h₃
  rcases hend with ⟨ho, hk⟩ | ⟨fault, left, ho, hne, hk⟩
  · simp only [Plan.report, ho, Plan.length_updates]
    exact .written p (stable _ _ _ _ hk h₁₃)
  · simp only [Plan.report, ho]
    exact .brokenOff p _ fault left hne (stable _ _ _ _ hk h₁₃)

/-- A rule for updates, in terms of what is known while some batches of the plan are left. -/
theorem keeps_update {rs : Records}
    (hplan : ∀ l, reg.list = .ok l → ∀ rs₁ rs₂ rs₃ rs', c.rely rs rs₁ → c.rely rs₁ rs₂ →
      c.rely rs₂ rs₃ → c.rely rs₃ rs' →
      let p := Plan.build l (rs₁.withStatus .preloaded) (rs₂.withStatus .pendingRemoval)
        (rs₃.withStatus .pendingAutomatedRemoval)
      known p (Writer.batches p.updates) rs') :
    reg.update.Keeps c (fun rs' r => UpdateEnds c known rs rs' r.outcome) rs := by
  unfold update
  have hplanned : reg.planUpdate.Keeps c (fun rs' answer => match answer with
      | .ok p => known p (Writer.batches p.updates) rs'
      | .error fault => (∀ told f, fault ≠ .write told f) ∧ c.rely rs rs') rs :=
    reg.keeps_planUpdate hplan fun rs' fault hr hf => ⟨hf, hr⟩
  refine hplanned.bind fun rs₁ answer hanswer => ?_
  cases answer with
  | error fault =>
    refine Keeps.pure fun rs' hr => ?_
    exact .unplanned fault hanswer.1 (c.rely_trans hanswer.2 hr)
  | ok p =>
    refine Keeps.bind (keeps_applyPlan hb known stable write rs p hanswer) fun rs₂ r hend => ?_
    exact Keeps.pure fun rs₃ h₃ => hend.later known stable h₃

end Updates

end Registry

end HstsPreload
