import HstsPreload.Decision
import Mathlib.Tactic.Lemma

/-!
# What each decision asks for

The rules for one record, turned around: from the record that a decision asks to write to the
status that the record had before.
-/

namespace HstsPreload

/-- On the list, or on the way off it: the statuses that an update asks the store for. -/
def Status.Tracked (s : Status) : Prop :=
  s = .preloaded ∨ s = .pendingRemoval ∨ s = .pendingAutomatedRemoval

instance (s : Status) : Decidable s.Tracked := by
  unfold Status.Tracked
  infer_instance

namespace Record

@[simp] lemma name_listed (r : Record) (e : Entry) : (r.listed e).name = r.name := rfl

@[simp] lemma status_listed (r : Record) (e : Entry) : (r.listed e).status = .preloaded := rfl

lemma listed_congr {r s : Record} (e : Entry) (h : r.name = s.name) : r.listed e = s.listed e := by
  simp only [listed, h]

lemma onReconcile_some (r : Record) (e : Entry) :
    r.onReconcile (some e) =
      if r.status.Tracked then .unchanged else .transition (r.listed e) := by
  unfold onReconcile Status.Tracked
  cases r.status <;> simp

/-- All that a comparison can ask for: the record joins the list, leaves it, or is rejected
because its removal was asked for. -/
lemma onReconcile_cases {r r' : Record} {entry : Option Entry}
    (h : r.onReconcile entry = .transition r') :
    (∃ e, entry = some e ∧ ¬r.status.Tracked ∧ r' = r.listed e) ∨
    (entry = none ∧ r.status = .preloaded ∧ r' = { r with status := .removed, message := "" }) ∨
    (entry = none ∧ r.status = .pendingRemoval ∧
      r' = { r with status := .rejected, message := selfRejectedMessage }) := by
  cases entry with
  | some e =>
    rw [onReconcile_some] at h
    split at h
    · cases h
    · next ht => exact .inl ⟨e, rfl, ht, (ReconcileDecision.transition.inj h).symm⟩
  | none =>
    unfold onReconcile at h
    split at h <;> simp_all

lemma onReconcile_pendingRemoval {r r' : Record} {entry : Option Entry}
    (hs : r.status = .pendingRemoval) (h : r.onReconcile entry = .transition r') :
    entry = none ∧ r'.status = .rejected := by
  obtain ⟨e, -, ht, -⟩ | ⟨-, hs', -⟩ | ⟨hn, -, rfl⟩ := onReconcile_cases h
  · exact (ht (.inr (.inl hs))).elim
  · rw [hs] at hs'; cases hs'
  · exact ⟨hn, rfl⟩

lemma name_of_onReconcile {r r' : Record} {entry : Option Entry}
    (h : r.onReconcile entry = .transition r') : r'.name = r.name := by
  obtain ⟨e, -, -, rfl⟩ | ⟨-, -, rfl⟩ | ⟨-, -, rfl⟩ := onReconcile_cases h <;> rfl

lemma ne_of_onReconcile {r r' : Record} {entry : Option Entry}
    (h : r.onReconcile entry = .transition r') : r' ≠ r := by
  rintro rfl
  obtain ⟨e, -, ht, he⟩ | ⟨-, hs, he⟩ | ⟨-, hs, he⟩ := onReconcile_cases h
  · exact ht (.inl (by rw [he, status_listed]))
  · rw [he] at hs; cases hs
  · rw [he] at hs; cases hs

lemma onReconcile_settles {r r' : Record} {entry : Option Entry}
    (h : r.onReconcile entry = .transition r') : r'.onReconcile entry = .unchanged := by
  obtain ⟨e, rfl, -, rfl⟩ | ⟨rfl, -, rfl⟩ | ⟨rfl, -, rfl⟩ := onReconcile_cases h <;> rfl

lemma onSubmit_accept {r r' : Record} {eligible : Bool} {now : Instant}
    (h : r.onSubmit eligible now = .accept r') :
    r' = r.submitted now ∧ eligible = true ∧
      (r.status = .unknown ∨ r.status = .removed ∨ r.status = .rejected) := by
  unfold onSubmit at h
  cases eligible with
  | false => split at h <;> cases h
  | true =>
    rw [if_pos rfl] at h
    split at h <;> cases h <;> exact ⟨rfl, rfl, by simp_all⟩

lemma onRemove_accept {r r' : Record} {now : Instant} (h : r.onRemove now = .accept r') :
    r' = r.leaving now ∧ (r.status = .preloaded ∨ r.status = .pending) ∧
      r.isProtected = false := by
  unfold onRemove at h
  by_cases hp : r.isProtected = true
  · rw [if_pos hp] at h
    split at h <;> cases h
  · rw [if_neg hp] at h
    split at h <;> cases h <;> exact ⟨rfl, by simp_all, eq_false_of_ne_true hp⟩

lemma onRemove_refuse {r : Record} {now : Instant} {reason : Issue}
    (h : r.onRemove now = .refuse reason) :
    reason = protectedFromRemoval ∧ (r.status = .preloaded ∨ r.status = .pending) ∧
      r.isProtected = true := by
  unfold onRemove at h
  by_cases hp : r.isProtected = true
  · rw [if_pos hp] at h
    split at h <;> cases h <;> exact ⟨rfl, by simp_all, hp⟩
  · rw [if_neg hp] at h
    split at h <;> cases h

lemma onRemove_unneeded {r : Record} {now : Instant} {reason : Issue}
    (h : r.onRemove now = .unneeded reason) :
    ¬(r.status = .preloaded ∨ r.status = .pending) := by
  intro hs
  unfold onRemove at h
  rcases hs with hs | hs <;> rw [hs] at h <;> dsimp only at h <;> split at h <;> cases h

end Record

end HstsPreload
