import HstsPreload.Proofs.History

/-!
# Requests while a header stands

No header lets its site both join the list and leave it. So while a header stays what it is, one
of the two kinds of request is never accepted, and the other is accepted at most once: nothing
but an update moves on what it has stored.
-/

namespace HstsPreload

open Program

lemma Issues.hasErrors_append (a b : Issues) :
    (a ++ b).hasErrors = (a.hasErrors || b.hasErrors) := by
  change (!(a.errors ++ b.errors).isEmpty) = (!a.errors.isEmpty || !b.errors.isEmpty)
  cases a.errors <;> rfl

@[simp] lemma Issues.hasErrors_pushError (is : Issues) (i : Issue) :
    (is.pushError i).hasErrors = true := by
  simp [pushError, hasErrors]

namespace Header

lemma directiveIssues_eq_nil {h : Header} :
    h.directiveIssues = [] ↔ h.includeSubDomains = true ∧ h.preload = true := by
  simp [directiveIssues]

lemma maxAgeIssues_eq_nil {h : Header} {policy : Policy} :
    h.maxAgeIssues policy = [] ↔ ∃ age, h.maxAge = some age ∧ requiredMaxAge policy ≤ age := by
  unfold maxAgeIssues
  cases h.maxAge with
  | none => simp
  | some age => simp

lemma hasErrors_preloadable_eq_false {raw : String} {policy : Policy} :
    (preloadable (some raw) policy).hasErrors = false ↔
      (parse raw).2.errors = [] ∧
      (∃ age, (parse raw).1.maxAge = some age ∧ requiredMaxAge policy ≤ age) ∧
      (parse raw).1.includeSubDomains = true ∧ (parse raw).1.preload = true := by
  have herrors : (preloadable (some raw) policy).errors =
      (parse raw).2.errors ++ (parse raw).1.maxAgeIssues policy ++ (parse raw).1.directiveIssues :=
    rfl
  rw [Issues.hasErrors, Bool.not_eq_false', List.isEmpty_iff, herrors, List.append_eq_nil_iff,
    List.append_eq_nil_iff, maxAgeIssues_eq_nil, directiveIssues_eq_nil, and_assoc]

theorem hasErrors_removable_of_preloadable {raw : Option String} {policy : Policy}
    (h : (preloadable raw policy).hasErrors = false) : (removable raw).hasErrors = true := by
  cases raw with
  | none => cases h
  | some raw =>
    have hpreload := (hasErrors_preloadable_eq_false.mp h).2.2.2
    unfold removable
    dsimp only
    rw [if_pos hpreload, Issues.hasErrors_pushError]

end Header

namespace Scanner

lemma hasErrors_eligible_ofHeaders {ask : String → HeaderAnswer} {domain : String}
    {policy : Policy} : ((ofHeaders ask).eligible domain policy).hasErrors = false ↔
      (formatIssues domain).hasErrors = false ∧
        (match ask domain with
        | .ok header => Header.preloadable header policy
        | .error issues => issues).hasErrors = false := by
  unfold ofHeaders
  dsimp only
  cases hformat : (formatIssues domain).hasErrors with
  | true => simp [hformat]
  | false => cases ask domain <;> simp [Issues.hasErrors_append, hformat]

/-- The verdicts on a domain rest on a header: the site may join the list or leave it only if
the header lets it. -/
structure RestsOn (s : Scanner) (domain : String) (raw : Option String) : Prop where
  eligible : ∀ policy, (s.eligible domain policy).hasErrors = false →
    (Header.preloadable raw policy).hasErrors = false
  removable : (s.removable domain).hasErrors = false → (Header.removable raw).hasErrors = false

lemma restsOn_ofHeaders {ask : String → HeaderAnswer} {domain : String} {raw : Option String}
    (h : ask domain = .ok raw) : (ofHeaders ask).RestsOn domain raw where
  eligible policy hclean := by
    have hheader := (hasErrors_eligible_ofHeaders.mp hclean).2
    rwa [h] at hheader
  removable hclean := by
    unfold ofHeaders at hclean
    dsimp only at hclean
    rwa [h] at hclean

lemma RestsOn.not_both_clean {s s' : Scanner} {domain : String} {raw : Option String}
    (h : s.RestsOn domain raw) (h' : s'.RestsOn domain raw)
    (hjoin : (s.preloadable domain).hasErrors = false)
    (hleave : (s'.removable domain).hasErrors = false) : False := by
  have herrors := Header.hasErrors_removable_of_preloadable (h.eligible _ hjoin)
  rw [h'.removable hleave] at herrors
  cases herrors

end Scanner

def Operation.IsRequest : Operation → Prop
  | submit _ | remove _ => True
  | setPreloaded _ | update => False

/-- After a request has been decided, no other one is that rests on the same header. -/
lemma Operation.Decides.decides_no_more {reg reg' : Registry} {op op' : Operation}
    {rs rs' : Records} {r r' : Record} {raw : Option String} (hop : op.IsRequest)
    (hop' : op'.IsRequest) (hreg : reg.scanner.RestsOn r.name raw)
    (hreg' : reg'.scanner.RestsOn r.name raw) (hk : rs.Keyed) (hd : op.Decides reg rs r)
    (hstored : rs'.get r.name = r) (hdomain : op'.domain? = some r.name)
    (hd' : op'.Decides reg' rs' r') : False := by
  have hown : op.domain? = some r.name := hd.domain?_eq hk
  cases op with
  | setPreloaded domain | update => exact hop
  | submit domain =>
    obtain rfl : domain = r.name := Option.some.inj hown
    have hpending : r.status = .pending := by rw [(Record.onSubmit_accept hd.2).1]; rfl
    cases op' with
    | setPreloaded domain | update => exact hop'
    | submit domain =>
      obtain rfl : domain = r.name := Option.some.inj hdomain
      have hstatus := (Record.onSubmit_accept hd'.2).2.2
      rw [hstored, hpending] at hstatus
      rcases hstatus with h | h | h <;> cases h
    | remove domain =>
      obtain rfl : domain = r.name := Option.some.inj hdomain
      exact hreg.not_both_clean hreg' hd.1 hd'.1
  | remove domain =>
    obtain rfl : domain = r.name := Option.some.inj hown
    have hleaving : r.status = .pendingRemoval := by rw [(Record.onRemove_accept hd.2).1]; rfl
    cases op' with
    | setPreloaded domain | update => exact hop'
    | submit domain =>
      obtain rfl : domain = r.name := Option.some.inj hdomain
      exact hreg'.not_both_clean hreg hd'.1 hd.1
    | remove domain =>
      obtain rfl : domain = r.name := Option.some.inj hdomain
      have hstatus := (Record.onRemove_accept hd'.2).2.1
      rw [hstored, hleaving] at hstatus
      rcases hstatus with h | h <;> cases h

def Event.Changes (e : Event) (name : String) : Prop :=
  e.before[name]? ≠ e.after[name]?

instance (e : Event) (name : String) : Decidable (e.Changes name) := by
  unfold Event.Changes
  infer_instance

/-- Requests one after another, the latest first, on any domains and at any times, each of which
may fail at any access or be cut off. On one of the domains all verdicts rest on one header. -/
inductive Requests {σ : Type} [RecordStore σ] [LawfulStore σ] (domain : String)
    (raw : Option String) (w₀ : World σ) : List Event → World σ → Prop where
  | start : Requests domain raw w₀ [] w₀
  | next {events : List Event} {w w' : World σ} {p : Program Reply} (reg : Registry)
      (op : Operation) : Requests domain raw w₀ events w → reg.Batched →
      reg.scanner.RestsOn domain raw → op.IsRequest →
      Relation.ReflTransGen World.Step (w, op.program reg) (w', p) →
      Requests domain raw w₀ (⟨reg, op, w.records, w'.records, p.answer?⟩ :: events) w'

namespace Requests

variable {σ : Type} [RecordStore σ] [LawfulStore σ] {domain : String} {raw : Option String}
  {w₀ w : World σ} {events : List Event}

lemma keyed (h : Requests domain raw w₀ events w) (hk : w₀.records.Keyed) : w.records.Keyed := by
  induction h with
  | start => exact hk
  | next reg op _ _ _ _ hs ih => exact World.keyed_of_steps hs ih

/-- The record of the domain is what a request has decided. -/
def Decided (domain : String) (raw : Option String) (rs : Records) : Prop :=
  ∃ (reg : Registry) (op : Operation) (before : Records) (r : Record), op.IsRequest ∧
    reg.scanner.RestsOn domain raw ∧ before.Keyed ∧ op.Decides reg before r ∧ r.name = domain ∧
    rs[domain]? = some r

lemma decided_of_changes {reg : Registry} {op : Operation} {w' : World σ} {p : Program Reply}
    (hb : reg.Batched) (hreg : reg.scanner.RestsOn domain raw) (hop : op.IsRequest)
    (hk : w.records.Keyed)
    (hs : Relation.ReflTransGen World.Step (w, op.program reg) (w', p))
    (hc : Event.Changes ⟨reg, op, w.records, w'.records, p.answer?⟩ domain) :
    Decided domain raw w'.records ∧ ¬Decided domain raw w.records := by
  have heffect := (op.explained hb hk hs).effect
  obtain hsame | ⟨r, hd, hput⟩ | ⟨l, rfl, -⟩ := heffect
  · exact (hc (congrArg (·[domain]?) hsame.symm)).elim
  · have hname : r.name = domain := by
      by_contra hne
      refine hc ?_
      dsimp only at hput ⊢
      rw [hput, Records.getElem?_put, if_neg hne]
    subst hname
    have hafter : w'.records[r.name]? = some r := by
      dsimp only at hput
      rw [hput, Records.getElem?_put, if_pos rfl]
    refine ⟨⟨reg, op, _, r, hop, hreg, hk, hd, rfl, hafter⟩, ?_⟩
    rintro ⟨reg₁, op₁, rs₁, r₁, hop₁, hreg₁, hk₁, hd₁, hn₁, hstored⟩
    have hdomain : op.domain? = some r₁.name := hn₁ ▸ hd.domain?_eq hk
    exact hd₁.decides_no_more hop₁ hop (hn₁ ▸ hreg₁) (hn₁ ▸ hreg) hk₁
      (Records.get_of_some (hn₁ ▸ hstored)) hdomain hd
  · exact hop.elim

lemma changes_cases (h : Requests domain raw w₀ events w) (hk : w₀.records.Keyed) :
    events.countP (fun e => e.Changes domain) = 0 ∨
      events.countP (fun e => e.Changes domain) = 1 ∧ Decided domain raw w.records := by
  induction h with
  | start => exact .inl rfl
  | @next events w w' p reg op hrequests hb hreg hop hs ih =>
    by_cases hc : Event.Changes ⟨reg, op, w.records, w'.records, p.answer?⟩ domain
    · obtain ⟨hdecided, hnot⟩ := decided_of_changes hb hreg hop (hrequests.keyed hk) hs hc
      have hnone := ih.resolve_right fun hone => hnot hone.2
      rw [List.countP_cons_of_pos (by simpa using hc), hnone]
      exact .inr ⟨rfl, hdecided⟩
    · rw [List.countP_cons_of_neg (by simpa using hc)]
      refine ih.imp_right fun hone => ⟨hone.1, ?_⟩
      -- the record is the one that was decided before
      obtain ⟨reg₁, op₁, rs₁, r₁, hop₁, hreg₁, hk₁, hd₁, hn₁, hstored⟩ := hone.2
      have hsame : w.records[domain]? = w'.records[domain]? := not_not.mp hc
      exact ⟨reg₁, op₁, rs₁, r₁, hop₁, hreg₁, hk₁, hd₁, hn₁, hsame ▸ hstored⟩

lemma countP_changes_le_one (h : Requests domain raw w₀ events w) (hk : w₀.records.Keyed) :
    events.countP (fun e => e.Changes domain) ≤ 1 := by
  rcases h.changes_cases hk with hnone | ⟨hone, -⟩
  · rw [hnone]; exact Nat.zero_le 1
  · exact hone.le

lemma unchanged (h : Requests domain raw w₀ events w)
    (hnone : events.countP (fun e => e.Changes domain) = 0) :
    w.records[domain]? = w₀.records[domain]? ∧
      ∀ e ∈ events, e.after[domain]? = w₀.records[domain]? := by
  induction h with
  | start => exact ⟨rfl, by simp⟩
  | @next events w w' p reg op _ _ _ _ _ ih =>
    rw [List.countP_eq_zero, List.forall_mem_cons] at hnone
    obtain ⟨hc, hnone⟩ := hnone
    obtain ⟨hw, hearlier⟩ := ih (List.countP_eq_zero.mpr hnone)
    have hsame : w.records[domain]? = w'.records[domain]? :=
      not_not.mp fun hne => hc (decide_eq_true hne)
    exact ⟨hsame ▸ hw, List.forall_mem_cons.mpr ⟨hsame ▸ hw, hearlier⟩⟩

/-- While the header of a site stands, at most one of any number of requests changes the record
of the site, from whatever record it starts. Between the requests it is the first record or the
last, so no operator can take it back and forth between pending and pending removal. -/
theorem change_at_most_once (h : Requests domain raw w₀ events w) (hk : w₀.records.Keyed) :
    events.countP (fun e => e.Changes domain) ≤ 1 ∧
      ∀ e ∈ events, e.after[domain]? = w₀.records[domain]? ∨
        e.after[domain]? = w.records[domain]? := by
  refine ⟨h.countP_changes_le_one hk, ?_⟩
  induction h with
  | start => simp
  | @next events w w' p reg op hrequests hb hreg hop hs ih =>
    refine List.forall_mem_cons.mpr ⟨.inr rfl, fun e he => ?_⟩
    by_cases hc : Event.Changes ⟨reg, op, w.records, w'.records, p.answer?⟩ domain
    · -- it is the only change, so the earlier requests left the first record as it was
      have hle := (hrequests.next reg op hb hreg hop hs).countP_changes_le_one hk
      rw [List.countP_cons_of_pos (by simpa using hc)] at hle
      have hnone : events.countP (fun e => e.Changes domain) = 0 := by omega
      exact .inl ((hrequests.unchanged hnone).2 e he)
    · have hsame : w.records[domain]? = w'.records[domain]? := not_not.mp hc
      exact hsame ▸ ih e he

theorem refused_submission_after_removal :
    let raw := some "max-age=63072000; includeSubDomains"
    let reg : Registry :=
      { Registry.listing ⟨[]⟩ with scanner := .ofHeaders fun _ => .ok raw }
    let later : Registry := { reg with now := ⟨60, 0⟩ }
    let w : World MemoryStore := .holding [{ name := "a.example", status := .preloaded }]
    let first := w.run ((Operation.remove "a.example").program reg)
    let second := first.2.run ((Operation.submit "a.example").program later)
    let e : Event :=
      ⟨reg, .remove "a.example", w.records, first.2.records, some first.1⟩
    let e' : Event :=
      ⟨later, .submit "a.example", first.2.records, second.2.records, some second.1⟩
    e.Changes "a.example" ∧ [e', e].countP (fun e => e.Changes "a.example") ≤ 1 ∧
      (first.2.records.get "a.example").status = .pendingRemoval := by
  intro raw reg later w first second e e'
  have hrests : reg.scanner.RestsOn "a.example" raw :=
    @Scanner.restsOn_ofHeaders (fun _ => .ok raw) "a.example" raw rfl
  have hrequests : Requests "a.example" raw w [e', e] second.2 :=
    .next later (.submit "a.example")
      (.next reg (.remove "a.example") .start rfl hrests trivial (w.run_steps _))
      rfl hrests trivial (first.2.run_steps _)
  obtain ⟨honce, -⟩ := hrequests.change_at_most_once (World.keyed_holding _)
  exact ⟨by decide, honce, by decide⟩

end Requests

end HstsPreload
