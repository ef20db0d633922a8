import HstsPreload.Proofs.Interleaving
import HstsPreload.Proofs.Contract
import Mathlib.Algebra.Group.Nat.Defs

/-!
# Runs, moment by moment

A timeline lists the moments of an interleaved run. It tells since when a value has been true,
which is what the generations of the cache are about: as long as the generation does not change,
nobody has written and come to an end.
-/

namespace HstsPreload

open Program

namespace Cache

variable {c : Cache} {time : Nat} {generation : UInt64}

lemma exists_of_find? {domain : String} {r : Record} (h : c.find? time domain = some r) :
    ∃ kept, c.byDomain[domain]? = some kept ∧ kept.value = r := by
  unfold find? at h
  split at h
  · obtain ⟨kept, hkept, hfresh⟩ := Option.bind_eq_some_iff.mp h
    unfold Kept.fresh? at hfresh
    split at hfresh
    · exact ⟨kept, hkept, Option.some.inj hfresh⟩
    · cases hfresh
  · cases h

lemma exists_of_withStatus? {s : Status} {rs : List Record}
    (h : c.withStatus? time s = some rs) :
    ∃ kept, c.byStatus s = some kept ∧ kept.value = rs := by
  unfold withStatus? at h
  split at h
  · obtain ⟨kept, hkept, hfresh⟩ := Option.bind_eq_some_iff.mp h
    unfold Kept.fresh? at hfresh
    split at hfresh
    · exact ⟨kept, hkept, Option.some.inj hfresh⟩
    · cases hfresh
  · cases h

lemma byStatus_keep (r : Record) : (c.keep time generation r).byStatus = c.byStatus := by
  unfold keep
  split <;> rfl

lemma generation_keep (r : Record) : (c.keep time generation r).generation = c.generation := by
  unfold keep
  split <;> rfl

lemma byDomain_keepList (s : Status) (rs : List Record) :
    (c.keepList time generation s rs).byDomain = c.byDomain := by
  unfold keepList
  split <;> rfl

lemma generation_keepList (s : Status) (rs : List Record) :
    (c.keepList time generation s rs).generation = c.generation := by
  unfold keepList
  split <;> rfl

lemma of_byDomain_keep {r : Record} {domain : String} {kept : Kept Record}
    (h : (c.keep time generation r).byDomain[domain]? = some kept) :
    c.byDomain[domain]? = some kept ∨
      c.generation = generation ∧ r.name = domain ∧ kept.value = r := by
  unfold keep at h
  split at h
  · next hgeneration =>
    rw [Std.ExtTreeMap.getElem?_insert] at h
    split at h
    · next hname =>
      rw [← Option.some.inj h]
      exact .inr ⟨hgeneration.2, Std.LawfulEqOrd.eq_of_compare hname, rfl⟩
    · rw [Std.ExtTreeMap.getElem?_filter', Option.filter_eq_some_iff] at h
      exact .inl h.1
  · exact .inl h

lemma of_byStatus_keepList {s t : Status} {rs : List Record} {kept : Kept (List Record)}
    (h : (c.keepList time generation s rs).byStatus t = some kept) :
    c.byStatus t = some kept ∨ c.generation = generation ∧ t = s ∧ kept.value = rs := by
  unfold keepList at h
  split at h
  · next hgeneration =>
    dsimp only at h
    split at h
    · next hs =>
      rw [← Option.some.inj h]
      exact .inr ⟨hgeneration.2, hs, rfl⟩
    · exact .inl h
  · exact .inl h

end Cache

namespace World

variable {σ α : Type} [RecordStore σ] [LawfulStore σ]

lemma Interleaved.exists_thread {x y : World σ × List (Program α)} (h : Interleaved x y) :
    ∃ i p p', x.2[i]? = some p ∧ y.2 = x.2.set i p' ∧ (p' = p ∧ x.1.Drifts y.1 ∨
      ∃ a next, p = .step a next ∧ y.1 = (x.1.answer a).2 ∧ p' = next (x.1.answer a).1) := by
  obtain ⟨i, hi, hstep⟩ := h
  refine ⟨i, _, _, hi, rfl, ?_⟩
  cases hstep with
  | drift p hd => exact .inl ⟨rfl, hd⟩
  | access w a next => exact .inr ⟨a, next, rfl, rfl, rfl⟩

omit [LawfulStore σ] in
lemma generation_answer (w : World σ) {a : Access} (h : a ≠ .invalidate) :
    (w.answer a).2.cache.generation = w.cache.generation := by
  cases a with
  | keep g r => exact Cache.generation_keep r
  | keepList g s rs => exact Cache.generation_keepList s rs
  | invalidate => exact (h rfl).elim
  | _ => rfl

end World

/-- The moments of several programs that run interleaved. -/
structure Timeline (σ α : Type) [RecordStore σ] [LawfulStore σ] where
  length : Nat
  moment : Nat → World σ × List (Program α)
  step : ∀ k < length, World.Interleaved (moment k) (moment (k + 1))

namespace Timeline

variable {σ α β : Type} [RecordStore σ] [LawfulStore σ]

/-- Several programs that take turns in the order of a schedule. -/
def ofSchedule (x : World σ × List (Program α)) (schedule : List Nat)
    (h : ∀ i ∈ schedule, i < x.2.length) : Timeline σ α where
  length := schedule.length
  moment k := (schedule.take k).foldl World.turn x
  step k hk := by
    rw [List.take_succ_eq_append_getElem hk, List.foldl_append, List.foldl_cons, List.foldl_nil]
    refine World.interleaved_turn _ ?_
    rw [World.length_foldl_turn]
    exact h _ (List.getElem_mem hk)

variable (tl : Timeline σ α)

def records (k : Nat) : Records :=
  (tl.moment k).1.records

def cache (k : Nat) : Cache :=
  (tl.moment k).1.cache

def threads (k : Nat) : List (Program α) :=
  (tl.moment k).2

/-- How often the cache has been emptied up to a moment: this begins a new generation, and
nothing else does. -/
def emptied : Nat → Nat
  | 0 => 0
  | k + 1 =>
    if (tl.cache (k + 1)).generation = (tl.cache k).generation then emptied k else emptied k + 1

/-- The store has held a value since the cache was emptied for the last time. -/
def Held (k : Nat) (value : Records → β) (b : β) : Prop :=
  ∃ t ≤ k, tl.emptied t = tl.emptied k ∧ value (tl.records t) = b

/-- Whatever is in the cache, the store has held since the cache was last emptied. -/
structure Current (k : Nat) : Prop where
  byDomain (domain : String) (kept : Kept Record) :
    (tl.cache k).byDomain[domain]? = some kept → tl.Held k (·.get domain) kept.value
  byStatus (s : Status) (kept : Kept (List Record)) :
    (tl.cache k).byStatus s = some kept → tl.Held k (·.withStatus s) kept.value

lemma emptied_le (k : Nat) : tl.emptied k ≤ k := by
  induction k with
  | zero => exact Nat.le_refl 0
  | succ k ih =>
    rw [emptied]
    split <;> omega

lemma emptied_mono {j k : Nat} (h : j ≤ k) : tl.emptied j ≤ tl.emptied k := by
  induction h with
  | refl => exact Nat.le_refl _
  | @step k _ ih =>
    rw [emptied]
    split <;> omega

lemma emptied_succ {k : Nat}
    (h : (tl.cache (k + 1)).generation = (tl.cache k).generation) :
    tl.emptied (k + 1) = tl.emptied k := by
  rw [emptied, if_pos h]

lemma generation_succ {k : Nat} (hk : k < tl.length) :
    (tl.cache (k + 1)).generation = (tl.cache k).generation ∨
      (tl.cache (k + 1)).generation = (tl.cache k).generation + 1 := by
  obtain ⟨i, p, p', -, -, ⟨-, hd⟩ | ⟨a, next, -, hw, -⟩⟩ := (tl.step k hk).exists_thread
  · exact .inl (congrArg Cache.generation hd.2.1)
  · unfold cache
    rw [hw]
    by_cases ha : a = .invalidate
    · subst ha
      exact .inr rfl
    · exact .inl (World.generation_answer _ ha)

variable {tl}

lemma toNat_generation {k : Nat} (hk : k ≤ tl.length) :
    (tl.cache k).generation.toNat =
      ((tl.cache 0).generation.toNat + tl.emptied k) % 2 ^ 64 := by
  induction k with
  | zero =>
    have hlt := (tl.cache 0).generation.toNat_lt
    rw [emptied, Nat.add_zero, Nat.mod_eq_of_lt hlt]
  | succ k ih =>
    have hprev := ih (by omega)
    -- a new generation differs from the one before it, also where the count comes round
    rw [emptied]
    rcases tl.generation_succ hk with h | h
    · rw [if_pos h, h, hprev]
    · have hne : (tl.cache (k + 1)).generation ≠ (tl.cache k).generation := by
        rw [h]
        simp
      rw [if_neg hne, h, UInt64.toNat_add, hprev]
      have hone : UInt64.toNat 1 = 1 := rfl
      omega

/-- As long as the count has not come round, one generation is one stretch of the run. -/
lemma emptied_eq_of_generation_eq (hfew : tl.emptied tl.length < 2 ^ 64) {j k : Nat}
    (hj : j ≤ tl.length) (hk : k ≤ tl.length)
    (h : (tl.cache j).generation = (tl.cache k).generation) : tl.emptied j = tl.emptied k := by
  have hj' := toNat_generation hj
  have hk' := toNat_generation hk
  have hlej := tl.emptied_mono hj
  have hlek := tl.emptied_mono hk
  rw [h, hk'] at hj'
  omega

lemma Held.succ {k : Nat} {value : Records → β} {b : β} (h : tl.Held k value b)
    (hsame : tl.emptied (k + 1) = tl.emptied k) : tl.Held (k + 1) value b := by
  obtain ⟨t, ht, hemptied, hb⟩ := h
  exact ⟨t, by omega, by omega, hb⟩

lemma Held.now {k : Nat} (value : Records → β) : tl.Held k value (value (tl.records k)) :=
  ⟨k, Nat.le_refl k, rfl, rfl⟩

variable (tl)

/-- What an access may answer at a moment. -/
def Tells (k : Nat) : (a : Access) → a.Answer → Prop
  | .cached domain, answer => ∀ r, answer = some r → tl.Held k (·.get domain) r
  | .cachedList s, answer => ∀ rs, answer = some rs → tl.Held k (·.withStatus s) rs
  | .generation, answer => answer = (tl.cache k).generation
  | .load domain, answer => ∀ r, answer = .ok r → r = (tl.records k).get domain
  | .loadList s, answer => ∀ rs, answer = .ok rs → rs = (tl.records k).withStatus s
  | _, _ => True

/-- The cache may be given a value of its generation only if the store has held it since. -/
def Admits (k : Nat) : Access → Prop
  | .keep g r => (tl.cache k).generation = g → tl.Held k (·.get r.name) r
  | .keepList g s rs => (tl.cache k).generation = g → tl.Held k (·.withStatus s) rs
  | _ => True

/-- From a moment on, a program keeps no value that is out of date, and whenever it has come to
an end its answer satisfies `post`. -/
def Follows (post : Nat → β → Prop) : Program β → Nat → Prop
  | .done a, j => ∀ k, j ≤ k → post k a
  | .step a next, j => ∀ k, j ≤ k → k < tl.length → tl.Admits k a ∧
    ∀ answer, tl.Tells k a answer → Follows post (next answer) (k + 1)

variable {tl} {post : Nat → α → Prop} {k : Nat}

lemma Follows.later {post : Nat → β → Prop} {p : Program β} {j : Nat}
    (h : tl.Follows post p j) (hjk : j ≤ k) : tl.Follows post p k := by
  cases p with
  | done a => exact fun k' hk' => h k' (Nat.le_trans hjk hk')
  | step a next => exact fun k' hk' => h k' (Nat.le_trans hjk hk')

lemma Current.tells (h : tl.Current k) (a : Access) :
    tl.Tells k a ((tl.moment k).1.answer a).1 := by
  cases a with
  | cached domain =>
    intro r hr
    obtain ⟨kept, hkept, rfl⟩ := Cache.exists_of_find? hr
    exact h.byDomain domain kept hkept
  | cachedList s =>
    intro rs hrs
    obtain ⟨kept, hkept, rfl⟩ := Cache.exists_of_withStatus? hrs
    exact h.byStatus s kept hkept
  | generation => rfl
  | load domain => exact fun r hr => LawfulStore.find_ok hr
  | loadList s => exact fun rs hrs => LawfulStore.withStatus_ok hrs
  | _ => trivial

/-- The cache stays current when time passes and with every access that is admitted. -/
lemma Current.succ (hcurrent : tl.Current k)
    (h : (tl.moment k).1.Drifts (tl.moment (k + 1)).1 ∨
      ∃ a, (tl.moment (k + 1)).1 = ((tl.moment k).1.answer a).2 ∧ tl.Admits k a) :
    tl.Current (k + 1) := by
  have hsame : tl.cache (k + 1) = tl.cache k → tl.Current (k + 1) := by
    intro hc
    have hemptied := tl.emptied_succ (congrArg Cache.generation hc)
    constructor
    · intro domain kept hkept
      rw [hc] at hkept
      exact (hcurrent.byDomain domain kept hkept).succ hemptied
    · intro s kept hkept
      rw [hc] at hkept
      exact (hcurrent.byStatus s kept hkept).succ hemptied
  rcases h with hd | ⟨a, hw, hadmits⟩
  · exact hsame hd.2.1
  · have hcache : tl.cache (k + 1) = ((tl.moment k).1.answer a).2.cache := congrArg World.cache hw
    -- only what puts a value into the cache, or empties it, changes what is in it
    cases a with
    | keep g r =>
      have hcache : tl.cache (k + 1) = (tl.cache k).keep (tl.moment k).1.time g r := hcache
      have hemptied := tl.emptied_succ (k := k) (by rw [hcache, Cache.generation_keep])
      constructor
      · intro domain kept hkept
        rw [hcache] at hkept
        rcases Cache.of_byDomain_keep hkept with hold | ⟨hg, hname, hvalue⟩
        · exact (hcurrent.byDomain domain kept hold).succ hemptied
        · rw [hvalue, ← hname]
          exact Held.succ (hadmits hg) hemptied
      · intro s kept hkept
        rw [hcache, Cache.byStatus_keep] at hkept
        exact (hcurrent.byStatus s kept hkept).succ hemptied
    | keepList g s rs =>
      have hcache : tl.cache (k + 1) = (tl.cache k).keepList (tl.moment k).1.time g s rs := hcache
      have hemptied := tl.emptied_succ (k := k) (by rw [hcache, Cache.generation_keepList])
      constructor
      · intro domain kept hkept
        rw [hcache, Cache.byDomain_keepList] at hkept
        exact (hcurrent.byDomain domain kept hkept).succ hemptied
      · intro t kept hkept
        rw [hcache] at hkept
        rcases Cache.of_byStatus_keepList hkept with hold | ⟨hg, rfl, hvalue⟩
        · exact (hcurrent.byStatus t kept hold).succ hemptied
        · rw [hvalue]
          exact Held.succ (hadmits hg) hemptied
    | invalidate =>
      constructor
      · intro domain kept hkept
        rw [hcache] at hkept
        simp [World.answer, Cache.invalidate] at hkept
      · intro s kept hkept
        rw [hcache] at hkept
        simp [World.answer, Cache.invalidate] at hkept
    | _ => exact hsame hcache

lemma Follows.mono {post post' : Nat → β → Prop} {p : Program β} {j : Nat}
    (h : tl.Follows post p j) (hp : ∀ k b, post k b → post' k b) : tl.Follows post' p j := by
  induction p generalizing j with
  | done b => exact fun k hk => hp k b (h k hk)
  | step a next ih =>
    intro k hjk hk
    obtain ⟨hadmits, hnext⟩ := h k hjk hk
    exact ⟨hadmits, fun answer hanswer => ih answer (hnext answer hanswer)⟩

lemma Follows.pure {post : Nat → β → Prop} {b : β} {j : Nat} (h : ∀ k, j ≤ k → post k b) :
    tl.Follows post (Pure.pure b : Program β) j := h

lemma Follows.bind {γ : Type} {post : Nat → γ → Prop} {mid : Nat → β → Prop} {p : Program β}
    {f : β → Program γ} {j : Nat} (h : tl.Follows mid p j)
    (hf : ∀ k b, mid k b → tl.Follows post (f b) k) : tl.Follows post (p >>= f) j := by
  induction p generalizing j with
  | done b => exact hf j b (h j (Nat.le_refl j))
  | step a next ih =>
    intro k hjk hk
    obtain ⟨hadmits, hnext⟩ := h k hjk hk
    exact ⟨hadmits, fun answer hanswer => ih answer (hnext answer hanswer)⟩

lemma thread_succ (hk : k < tl.length) {i : Nat} {p : Program α}
    (hp : (tl.threads k)[i]? = some p) :
    (tl.threads (k + 1))[i]? = some p ∨ ∃ a next, p = .step a next ∧
      (tl.moment (k + 1)).1 = ((tl.moment k).1.answer a).2 ∧
      (tl.threads (k + 1))[i]? = some (next ((tl.moment k).1.answer a).1) := by
  obtain ⟨i', q, q', hq, hthreads, hone⟩ := (tl.step k hk).exists_thread
  change (tl.threads k)[i']? = some q at hq
  change tl.threads (k + 1) = (tl.threads k).set i' q' at hthreads
  rw [hthreads]
  by_cases hi : i' = i
  · subst hi
    rw [hp] at hq
    cases hq
    rw [List.getElem?_set_self (List.getElem?_eq_some_iff.mp hp).1]
    rcases hone with ⟨rfl, -⟩ | ⟨a, next, rfl, hw, rfl⟩
    · exact .inl rfl
    · exact .inr ⟨a, next, rfl, hw, rfl⟩
  · rw [List.getElem?_set_ne hi]
    exact .inl hp

lemma Follows.succ (hk : k < tl.length) (hcurrent : tl.Current k) {i : Nat} {p : Program α}
    (hp : (tl.threads k)[i]? = some p) (h : tl.Follows post p k) :
    ∃ p', (tl.threads (k + 1))[i]? = some p' ∧ tl.Follows post p' (k + 1) := by
  rcases thread_succ hk hp with hsame | ⟨a, next, rfl, -, hnext⟩
  · exact ⟨p, hsame, h.later (Nat.le_succ k)⟩
  · exact ⟨_, hnext, (h k (Nat.le_refl k) hk).2 _ (hcurrent.tells a)⟩

lemma length_threads (hk : k < tl.length) :
    (tl.threads (k + 1)).length = (tl.threads k).length := by
  obtain ⟨i, p, p', -, hthreads, -⟩ := (tl.step k hk).exists_thread
  exact (congrArg List.length hthreads).trans List.length_set

/-- Where all programs follow the rule, the cache is current at every moment. -/
theorem current_of_follows (hstart : tl.Current 0)
    (h : ∀ p ∈ tl.threads 0, tl.Follows post p 0) (hk : k ≤ tl.length) :
    tl.Current k ∧ ∀ p ∈ tl.threads k, tl.Follows post p k := by
  induction k with
  | zero => exact ⟨hstart, h⟩
  | succ k ih =>
    obtain ⟨hcurrent, hfollows⟩ := ih (by omega)
    refine ⟨hcurrent.succ ?_, fun p' hp' => ?_⟩
    · obtain ⟨i, p, p', hi, -, ⟨-, hd⟩ | ⟨a, next, rfl, hw, -⟩⟩ := (tl.step k hk).exists_thread
      · exact .inl hd
      · have hp := hfollows _ (List.mem_of_getElem? hi)
        exact .inr ⟨a, hw, (hp k (Nat.le_refl k) hk).1⟩
    · obtain ⟨i, hi⟩ := List.mem_iff_getElem?.mp hp'
      have hlt := (List.getElem?_eq_some_iff.mp hi).1
      rw [length_threads hk] at hlt
      have hp := List.getElem?_eq_getElem hlt
      obtain ⟨p'', hi', hp''⟩ := (hfollows _ (List.getElem_mem hlt)).succ hk hcurrent hp
      rw [hi] at hi'
      cases hi'
      exact hp''

lemma Follows.exists_at (hcurrent : ∀ k ≤ tl.length, tl.Current k) {j : Nat} (hjk : j ≤ k)
    (hk : k ≤ tl.length) {i : Nat} {p : Program α} (hp : (tl.threads j)[i]? = some p)
    (h : tl.Follows post p j) : ∃ p', (tl.threads k)[i]? = some p' ∧ tl.Follows post p' k := by
  induction hjk with
  | refl => exact ⟨p, hp, h⟩
  | @step k hjk ih =>
    obtain ⟨p', hp', hfollows⟩ := ih (by omega)
    exact hfollows.succ hk (hcurrent k (by omega)) hp'

end Timeline

end HstsPreload
