import HstsPreload.Proofs.Timeline
import HstsPreload.Proofs.Refinement

/-!
# Reads are never older than finished writes

A read that begins when some writes have come to their end gives a value that the store held
after the last of them, and nothing older stays in the cache. A read asks for the generation
before it reads the store, a write begins a new one when it has written, and a value is kept
only under the generation that was asked for.
-/

namespace HstsPreload

open Program

/-- A call through the cache: two kinds of reads, and two of writes. -/
inductive CacheCall where
  | record (domain : String)
  | list (s : Status)
  | persist (reg : Registry) (r : Record)
  | apply (reg : Registry) (p : Plan)

inductive CacheReply where
  | record (answer : Except StoreFault Record)
  | list (answer : Except StoreFault (List Record))
  | persisted (outcome : Except StoreFault Unit)
  | applied (report : UpdateReport)

namespace CacheCall

def program : CacheCall → Program CacheReply
  | record domain => do return .record (← Registry.cachedRecord domain)
  | list s => do return .list (← Registry.cachedList s)
  | persist reg r => do return .persisted (← reg.persist r)
  | apply reg p => do return .applied (← reg.applyPlan p)

def Writes : CacheCall → Prop
  | record _ | list _ => False
  | persist reg _ | apply reg _ => reg.Batched

def Batched : CacheCall → Prop
  | record _ | list _ => True
  | persist reg _ | apply reg _ => reg.Batched

end CacheCall

namespace Program

variable {α β : Type}

/-- Whatever it is told, a program ends right after it has emptied the cache, unless its answer
is excused. -/
def Empties (excused : α → Prop) : Program α → Prop
  | .done a => excused a
  | .step a next => ∀ answer,
    a = .invalidate ∧ (∃ b, next answer = .done b) ∨ (next answer).Empties excused

namespace Empties

variable {excused : α → Prop}

lemma mono {excused' : α → Prop} {p : Program α} (h : p.Empties excused)
    (he : ∀ a, excused a → excused' a) : p.Empties excused' := by
  induction p with
  | done a => exact he a h
  | step a next ih => exact fun answer => (h answer).imp_right (ih answer)

lemma of_bind {p : Program β} {f : β → Program α} (h : ∀ b, (f b).Empties excused) :
    (p >>= f).Empties excused := by
  induction p with
  | done b => exact h b
  | step a next ih => exact fun answer => .inr (ih answer)

lemma map {g : β → α} {p : Program β} (h : p.Empties fun b => excused (g b)) :
    (do return g (← p)).Empties excused := by
  induction p with
  | done b => exact h
  | step a next ih =>
    intro answer
    rcases h answer with ⟨ha, b, hb⟩ | hnext
    · refine .inl ⟨ha, g b, ?_⟩
      change (next answer >>= fun b => Pure.pure (g b)) = _
      rw [hb]
      rfl
    · exact .inr (ih answer hnext)

lemma invalidate {a : α} :
    (access .invalidate >>= fun _ => (Pure.pure a : Program α)).Empties excused :=
  fun _ => .inl ⟨rfl, a, rfl⟩

end Empties

end Program

namespace Registry

lemma empties_persist (reg : Registry) (r : Record) :
    (reg.persist r).Empties fun _ => False :=
  Empties.of_bind fun _ => Empties.invalidate

lemma empties_applyPlan (reg : Registry) (p : Plan) :
    (reg.applyPlan p).Empties fun _ => False :=
  Empties.of_bind fun _ => Empties.invalidate

end Registry

lemma CacheCall.empties_program {call : CacheCall} (h : call.Writes) :
    call.program.Empties fun _ => False := by
  cases call with
  | record domain | list s => exact h.elim
  | persist reg r => exact (reg.empties_persist r).map
  | apply reg p => exact (reg.empties_applyPlan p).map

namespace Timeline

variable {σ α β : Type} [RecordStore σ] [LawfulStore σ] {tl : Timeline σ α} {j k : Nat}

lemma keyed (hstart : (tl.records 0).Keyed) (hk : k ≤ tl.length) : (tl.records k).Keyed := by
  induction k with
  | zero => exact hstart
  | succ k ih =>
    have hkeyed : (tl.moment k).1.records.Keyed := ih (by omega)
    unfold records
    obtain ⟨i, p, p', -, -, ⟨-, hd⟩ | ⟨a, next, -, hw, -⟩⟩ := (tl.step k hk).exists_thread
    · exact hd.1 ▸ hkeyed
    · rw [hw]
      exact ((tl.moment k).1.answers_answer a).keyed hkeyed

/-- The store has held a value at some moment up to `k` since the cache was last emptied
before `j`. -/
def HeldSince (tl : Timeline σ α) (j k : Nat) (value : Records → β) (b : β) : Prop :=
  ∃ t ≤ k, tl.emptied j ≤ tl.emptied t ∧ value (tl.records t) = b

lemma HeldSince.later {value : Records → β} {b : β} (h : tl.HeldSince j k value b) {k' : Nat}
    (hk : k ≤ k') : tl.HeldSince j k' value b := by
  obtain ⟨t, ht, hsince⟩ := h
  exact ⟨t, Nat.le_trans ht hk, hsince⟩

lemma Held.since {value : Records → β} {b : β} (h : tl.Held k value b) (hjk : j ≤ k) {k' : Nat}
    (hk : k ≤ k') : tl.HeldSince j k' value b := by
  obtain ⟨t, ht, hsame, hb⟩ := h
  exact ⟨t, Nat.le_trans ht hk, hsame ▸ tl.emptied_mono hjk, hb⟩

lemma held_of_generation_eq (hfew : tl.emptied tl.length < 2 ^ 64) {asked read kept : Nat}
    (h₁ : asked ≤ read) (h₂ : read ≤ kept) (h₃ : kept ≤ tl.length)
    (h : (tl.cache kept).generation = (tl.cache asked).generation) (value : Records → β) :
    tl.Held kept value (value (tl.records read)) := by
  have hsame := emptied_eq_of_generation_eq hfew h₃ (by omega) h
  have hle := tl.emptied_mono h₁
  have hle' := tl.emptied_mono h₂
  exact ⟨read, h₂, by omega, rfl⟩

lemma follows_cachedRecord (hstart : (tl.records 0).Keyed)
    (hfew : tl.emptied tl.length < 2 ^ 64) (domain : String) (j : Nat) :
    tl.Follows (fun k answer => ∀ r, answer = .ok r → tl.HeldSince j k (·.get domain) r)
      (Registry.cachedRecord domain) j := by
  intro k₁ h₁ _
  refine ⟨trivial, fun answer hcached => ?_⟩
  cases answer with
  | some r =>
    rintro k hk r' ⟨⟩
    exact (hcached r rfl).since h₁ (by omega)
  | none =>
    intro k₂ h₂ _
    refine ⟨trivial, fun asked hasked => ?_⟩
    intro k₃ h₃ hlt
    refine ⟨trivial, fun answer hloaded => ?_⟩
    cases answer with
    | error fault => exact fun k _ r hr => by cases hr
    | ok r =>
      have hr : r = (tl.records k₃).get domain := hloaded r rfl
      subst hr
      intro k₄ h₄ hlt'
      -- if it is kept, no generation has begun between asking for it and now
      refine ⟨fun hg => ?_, fun _ _ => ?_⟩
      · rw [(keyed hstart (Nat.le_of_lt hlt)).name_get]
        exact held_of_generation_eq hfew (by omega) (by omega) (Nat.le_of_lt hlt')
          (hg.trans hasked) (·.get domain)
      · rintro k hk r' ⟨⟩
        exact (Held.now (k := k₃) _).since (by omega) (by omega)

lemma follows_cachedList (hfew : tl.emptied tl.length < 2 ^ 64) (s : Status) (j : Nat) :
    tl.Follows (fun k answer => ∀ rs, answer = .ok rs → tl.HeldSince j k (·.withStatus s) rs)
      (Registry.cachedList s) j := by
  intro k₁ h₁ _
  refine ⟨trivial, fun answer hcached => ?_⟩
  cases answer with
  | some rs =>
    rintro k hk rs' ⟨⟩
    exact (hcached rs rfl).since h₁ (by omega)
  | none =>
    intro k₂ h₂ _
    refine ⟨trivial, fun asked hasked => ?_⟩
    intro k₃ h₃ hlt
    refine ⟨trivial, fun answer hloaded => ?_⟩
    cases answer with
    | error fault => exact fun k _ rs hrs => by cases hrs
    | ok rs =>
      have hrs : rs = (tl.records k₃).withStatus s := hloaded rs rfl
      subst hrs
      intro k₄ h₄ hlt'
      refine ⟨fun hg => ?_, fun _ _ => ?_⟩
      · exact held_of_generation_eq hfew (by omega) (by omega) (Nat.le_of_lt hlt')
          (hg.trans hasked) (·.withStatus s)
      · rintro k hk rs' ⟨⟩
        exact (Held.now (k := k₃) _).since (by omega) (by omega)

/-- The store has held the answer of a read at some moment up to `k` since the cache was last
emptied before `j`. -/
def Answered (tl : Timeline σ α) (j k : Nat) : CacheCall → CacheReply → Prop
  | .record domain, .record answer => ∀ r, answer = .ok r → tl.HeldSince j k (·.get domain) r
  | .list s, .list answer => ∀ rs, answer = .ok rs → tl.HeldSince j k (·.withStatus s) rs
  | _, _ => True

lemma follows_commitAll (batches : List (List Record)) (j : Nat) :
    tl.Follows (fun _ _ => True) (Writer.commitAll batches) j := by
  induction batches generalizing j with
  | nil => exact Follows.pure fun _ _ => trivial
  | cons batch left ih =>
    intro k _ _
    refine ⟨trivial, fun answer _ => ?_⟩
    cases answer with
    | ok _ => exact (ih (k + 1)).bind fun _ _ _ => Follows.pure fun _ _ => trivial
    | error fault => exact Follows.pure fun _ _ => trivial

lemma follows_putAll (updates : List Record) (j : Nat) :
    tl.Follows (fun _ _ => True) (Writer.putAll updates) j := by
  unfold Writer.putAll
  split
  · exact Follows.pure fun _ _ => trivial
  · exact follows_commitAll _ j

lemma follows_invalidate {γ : Type} (c : γ) (j : Nat) :
    tl.Follows (fun _ _ => True) (access .invalidate >>= fun _ => (Pure.pure c : Program γ)) j :=
  fun _ _ _ => ⟨trivial, fun _ _ _ _ => trivial⟩

/-- Every call follows the rule, from whatever moment on it starts. -/
lemma follows_program (hstart : (tl.records 0).Keyed) (hfew : tl.emptied tl.length < 2 ^ 64)
    {call : CacheCall} (hb : call.Batched) (j : Nat) :
    tl.Follows (fun k reply => tl.Answered j k call reply) call.program j := by
  cases call with
  | record domain =>
    refine (follows_cachedRecord hstart hfew domain j).bind fun k answer h => ?_
    exact Follows.pure fun k' hk r hr => (h r hr).later hk
  | list s =>
    refine (follows_cachedList hfew s j).bind fun k answer h => ?_
    exact Follows.pure fun k' hk rs hrs => (h rs hrs).later hk
  | persist reg r =>
    have hpersist : tl.Follows (fun _ _ => True) (reg.persist r) j := by
      rw [Registry.persist, hb]
      exact (follows_putAll [r] j).bind fun k _ _ => follows_invalidate _ k
    exact hpersist.bind fun _ _ _ => Follows.pure fun _ _ => trivial
  | apply reg p =>
    have happly : tl.Follows (fun _ _ => True) (reg.applyPlan p) j := by
      rw [Registry.applyPlan, hb]
      exact (follows_putAll p.updates j).bind fun k _ _ => follows_invalidate _ k
    exact happly.bind fun _ _ _ => Follows.pure fun _ _ => trivial

/-- A program comes to its end with the step after a moment. -/
def Returns (tl : Timeline σ α) (i m : Nat) : Prop :=
  (∃ a next, (tl.threads m)[i]? = some (.step a next)) ∧
    ∃ answer, (tl.threads (m + 1))[i]? = some (.done answer)

lemma empties_or_done {i : Nat} {p : Program α} (hp : (tl.threads 0)[i]? = some p)
    (h : p.Empties fun _ => False) (hk : k ≤ tl.length) :
    ∃ p', (tl.threads k)[i]? = some p' ∧
      ((p'.Empties fun _ => False) ∨ ∃ answer, p' = .done answer) := by
  induction k with
  | zero => exact ⟨p, hp, .inl h⟩
  | succ k ih =>
    obtain ⟨p', hp', hstate⟩ := ih (by omega)
    rcases thread_succ hk hp' with hsame | ⟨a, next, rfl, -, hnext⟩
    · exact ⟨p', hsame, hstate⟩
    · refine ⟨_, hnext, ?_⟩
      rcases hstate with hempties | ⟨answer, hdone⟩
      · exact (hempties _).elim (fun hlast => .inr hlast.2) .inl
      · cases hdone

lemma emptied_of_returns {i m : Nat} {p : Program α} (hp : (tl.threads 0)[i]? = some p)
    (h : p.Empties fun _ => False) (hm : m < tl.length) (hreturns : tl.Returns i m) :
    tl.emptied (m + 1) = tl.emptied m + 1 := by
  obtain ⟨⟨a, next, hstep⟩, answer, hdone⟩ := hreturns
  obtain ⟨p', hp', hstate⟩ := empties_or_done hp h (Nat.le_of_lt hm)
  rw [hstep] at hp'
  cases hp'
  have hempties : (Program.step a next).Empties fun _ => False :=
    hstate.resolve_right fun ⟨_, hd⟩ => by cases hd
  rcases thread_succ hm hstep with hsame | ⟨a', next', hsame, hw, hnext⟩
  · rw [hdone] at hsame
    cases hsame
  · cases hsame
    rw [hdone] at hnext
    have hend := hempties ((tl.moment m).1.answer a).1
    rw [← Option.some.inj hnext] at hend
    obtain ⟨rfl, -⟩ := hend.resolve_right id
    have hgeneration : (tl.cache (m + 1)).generation = (tl.cache m).generation + 1 := by
      unfold cache
      rw [hw]
      rfl
    have hnew : (tl.cache (m + 1)).generation ≠ (tl.cache m).generation := by
      rw [hgeneration]
      simp
    rw [emptied, if_neg hnew]

end Timeline

namespace Timeline

variable {σ : Type} [RecordStore σ] [LawfulStore σ]

/-- Every write that had returned by the moment `j` had returned by the moment `t`. -/
def AfterWrites (tl : Timeline σ CacheReply) (calls : List CacheCall) (j t : Nat) : Prop :=
  ∀ (i m : Nat) (call : CacheCall), calls[i]? = some call → call.Writes → tl.Returns i m →
    m < j → m < t

variable {tl : Timeline σ CacheReply} {calls : List CacheCall}

lemma HeldSince.afterWrites {β : Type} {j k : Nat} {value : Records → β} {b : β}
    (h : tl.HeldSince j k value b) (hstart : tl.threads 0 = calls.map CacheCall.program)
    (hj : j ≤ tl.length) :
    ∃ t ≤ k, tl.AfterWrites calls j t ∧ value (tl.records t) = b := by
  obtain ⟨t, ht, hsince, hb⟩ := h
  refine ⟨t, ht, fun i m call hcall hwrites hreturns hm => ?_, hb⟩
  have hp : (tl.threads 0)[i]? = some call.program := by
    rw [hstart, List.getElem?_map, hcall, Option.map_some]
  have hnew := emptied_of_returns hp (CacheCall.empties_program hwrites) (by omega) hreturns
  have hle := tl.emptied_mono (j := m + 1) hm
  refine Nat.lt_of_not_le fun htm => ?_
  -- otherwise the cache was emptied once more after the value was read
  have hle' := tl.emptied_mono htm
  omega

/-- Reads and writes through the cache, interleaved in any way, with writes that fail in whole
or in part and any passage of time, from a cache on that holds nothing but what the store
holds, and as long as the cache is emptied fewer than 2^64 times: a read that has not begun by
the moment `j` gives a value that the store held at a moment after the return of every write
that has returned by `j`. At every moment `n`, whatever is in the cache, the store held after
the return of every write that has returned by `n`. -/
theorem reads_follow_writes (tl : Timeline σ CacheReply) (calls : List CacheCall)
    (hb : ∀ call ∈ calls, call.Batched)
    (hstart : tl.threads 0 = calls.map CacheCall.program) (hk : (tl.records 0).Keyed)
    (hcold : tl.Current 0) (hfew : tl.emptied tl.length < 2 ^ 64) {j n : Nat} (hjn : j ≤ n)
    (hn : n ≤ tl.length) :
    (∀ (i : Nat) (domain : String) (r : Record),
      (tl.threads j)[i]? = some (CacheCall.record domain).program →
      (tl.threads n)[i]? = some (.done (.record (.ok r))) →
        ∃ t ≤ n, tl.AfterWrites calls j t ∧ (tl.records t).get domain = r) ∧
    (∀ (i : Nat) (s : Status) (rs : List Record),
      (tl.threads j)[i]? = some (CacheCall.list s).program →
      (tl.threads n)[i]? = some (.done (.list (.ok rs))) →
        ∃ t ≤ n, tl.AfterWrites calls j t ∧ (tl.records t).withStatus s = rs) ∧
    (∀ (domain : String) (kept : Kept Record), (tl.cache n).byDomain[domain]? = some kept →
      ∃ t ≤ n, tl.AfterWrites calls n t ∧ (tl.records t).get domain = kept.value) ∧
    ∀ (s : Status) (kept : Kept (List Record)), (tl.cache n).byStatus s = some kept →
      ∃ t ≤ n, tl.AfterWrites calls n t ∧ (tl.records t).withStatus s = kept.value := by
  have hfollows : ∀ p ∈ tl.threads 0, tl.Follows (fun _ _ => True) p 0 := by
    rw [hstart]
    exact List.forall_mem_map.mpr fun call hcall =>
      (follows_program hk hfew (hb call hcall) 0).mono fun _ _ _ => trivial
  have hcurrent : ∀ k ≤ tl.length, tl.Current k := fun k hk' =>
    (current_of_follows hcold hfollows hk').1
  have hanswered : ∀ (i : Nat) (call : CacheCall) (reply : CacheReply), call.Batched →
      (tl.threads j)[i]? = some call.program → (tl.threads n)[i]? = some (.done reply) →
        tl.Answered j n call reply := by
    intro i call reply hbatched hprogram hdone
    obtain ⟨p', hp', hpost⟩ :=
      (follows_program hk hfew hbatched j).exists_at hcurrent hjn hn hprogram
    rw [hdone] at hp'
    cases hp'
    exact hpost n (Nat.le_refl n)
  have hj : j ≤ tl.length := Nat.le_trans hjn hn
  refine ⟨fun i domain r hprogram hdone => ?_, fun i s rs hprogram hdone => ?_,
    fun domain kept hkept => ?_, fun s kept hkept => ?_⟩
  · have hread : tl.HeldSince j n (·.get domain) r :=
      hanswered i (.record domain) _ trivial hprogram hdone r rfl
    exact hread.afterWrites hstart hj
  · have hread : tl.HeldSince j n (·.withStatus s) rs :=
      hanswered i (.list s) _ trivial hprogram hdone rs rfl
    exact hread.afterWrites hstart hj
  · have hheld := (hcurrent n hn).byDomain domain kept hkept
    exact (hheld.since (Nat.le_refl n) (Nat.le_refl n)).afterWrites hstart hn
  · have hheld := (hcurrent n hn).byStatus s kept hkept
    exact (hheld.since (Nat.le_refl n) (Nat.le_refl n)).afterWrites hstart hn

end Timeline

namespace Race

open Timeline

def stored : Record := { name := "a.example", status := .pending }

def written : Record := { name := "a.example", status := .preloaded }

def calls : List CacheCall :=
  [.record "a.example", .persist (.listing ⟨[]⟩) written, .record "a.example"]

def start : World MemoryStore :=
  { World.holding [stored] with cache := { ttl := 1000 } }

/-- A record is written while it is being read, after the store has given the old one; when both
are done it is read again. -/
def timeline : Timeline MemoryStore CacheReply :=
  .ofSchedule (start, calls.map CacheCall.program) [0, 0, 0, 1, 1, 0, 2, 2, 2, 2] (by decide)

theorem read_after_race :
    (timeline.threads 6)[0]? = some (.done (.record (.ok stored))) ∧ timeline.Returns 1 4 ∧
      (timeline.threads 10)[2]? = some (.done (.record (.ok written))) ∧
      ∃ t ≤ 10, 4 < t ∧ (timeline.records t).get "a.example" = written := by
  have hreturns : timeline.Returns 1 4 := ⟨⟨_, _, rfl⟩, _, rfl⟩
  have hdone : (timeline.threads 10)[2]? = some (.done (.record (.ok written))) := rfl
  have hb : ∀ call ∈ calls, call.Batched := by
    intro call hcall
    simp only [calls, List.mem_cons, List.not_mem_nil, or_false] at hcall
    rcases hcall with rfl | rfl | rfl
    · trivial
    · rfl
    · trivial
  have hcold : timeline.Current 0 := by
    constructor
    · intro domain kept h
      simp [timeline, cache, ofSchedule, start] at h
    · intro s kept h
      simp [timeline, cache, ofSchedule, start] at h
  have hfew : timeline.emptied timeline.length < 2 ^ 64 :=
    Nat.lt_of_le_of_lt (timeline.emptied_le _) (by decide)
  obtain ⟨hread, -⟩ := reads_follow_writes timeline calls hb rfl (World.keyed_holding _) hcold hfew
    (j := 5) (n := 10) (by decide) (by decide)
  obtain ⟨t, ht, hafter, hget⟩ := hread 2 "a.example" written rfl hdone
  exact ⟨rfl, hreturns, hdone, t, ht, hafter 1 4 _ rfl rfl hreturns (by decide), hget⟩

end Race

end HstsPreload
