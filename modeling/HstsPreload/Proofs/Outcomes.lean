import Mathlib.Data.List.Forall2
import Mathlib.Tactic.Lemma

/-!
# Steps that may be refused

What is known of the steps behind a result that is there, of the first refusal among many, and of
lists whose items belong together in pairs.
-/

namespace HstsPreload

lemma exists_of_mem_right {α β : Type} {R : α → β → Prop} {xs : List α} {ys : List β}
    (h : List.Forall₂ R xs ys) {y : β} (hy : y ∈ ys) : ∃ x ∈ xs, R x y := by
  induction h with
  | nil => cases hy
  | cons hxy _ ih =>
    rcases List.mem_cons.mp hy with rfl | hy
    · exact ⟨_, List.mem_cons_self, hxy⟩
    · obtain ⟨x, hx, hxy⟩ := ih hy
      exact ⟨x, List.mem_cons_of_mem _ hx, hxy⟩

lemma exists_of_mem_left {α β : Type} {R : α → β → Prop} {xs : List α} {ys : List β}
    (h : List.Forall₂ R xs ys) {x : α} (hx : x ∈ xs) : ∃ y ∈ ys, R x y :=
  exists_of_mem_right h.flip hx

lemma exists_of_bind_ok {ε α β : Type} {x : Except ε α} {f : α → Except ε β} {b : β}
    (h : x >>= f = .ok b) : ∃ a, x = .ok a ∧ f a = .ok b := by
  cases x with
  | error e => cases h
  | ok a => exact ⟨a, rfl, h⟩

lemma bind_eq_ok_iff {ε α β : Type} {x : Except ε α} {f : α → Except ε β} {b : β} :
    x >>= f = .ok b ↔ ∃ a, x = .ok a ∧ f a = .ok b := by
  refine ⟨exists_of_bind_ok, ?_⟩
  rintro ⟨a, rfl, h⟩
  exact h

lemma mapError_eq_ok_iff {ε δ α : Type} {x : Except ε α} {f : ε → δ} {a : α} :
    x.mapError f = .ok a ↔ x = .ok a := by
  cases x with
  | error e => exact iff_of_false (fun h => nomatch h) (fun h => nomatch h)
  | ok b => exact ⟨fun h => congrArg _ (Except.ok.inj h), fun h => congrArg _ (Except.ok.inj h)⟩

lemma mapM_eq_ok {ε α β : Type} {f : α → Except ε β} {g : α → β} {xs : List α}
    (h : ∀ x ∈ xs, f x = .ok (g x)) : xs.mapM f = .ok (xs.map g) := by
  induction xs with
  | nil => rfl
  | cons x xs ih =>
    have hx := h x List.mem_cons_self
    have hxs := ih fun y hy => h y (List.mem_cons_of_mem _ hy)
    rw [List.mapM_cons, hx, hxs]
    rfl

lemma exists_ok_of_mapM {ε α β : Type} {f : α → Except ε β} {xs : List α} {ys : List β}
    (h : xs.mapM f = .ok ys) : ∀ x ∈ xs, ∃ y, f x = .ok y := by
  induction xs generalizing ys with
  | nil => simp
  | cons x xs ih =>
    rw [List.mapM_cons] at h
    obtain ⟨y, hx, h⟩ := exists_of_bind_ok h
    obtain ⟨rest, hxs, -⟩ := exists_of_bind_ok h
    intro z hz
    rcases List.mem_cons.mp hz with rfl | hz
    · exact ⟨y, hx⟩
    · exact ih hxs z hz

lemma mapM_eq_ok_iff {ε α β : Type} {f : α → Except ε β} {xs : List α} {ys : List β} :
    xs.mapM f = .ok ys ↔ List.Forall₂ (fun x y => f x = .ok y) xs ys := by
  induction xs generalizing ys with
  | nil =>
    rw [List.forall₂_nil_left_iff]
    exact ⟨fun h => (Except.ok.inj h).symm, fun h => h ▸ rfl⟩
  | cons x xs ih =>
    rw [List.mapM_cons, List.forall₂_cons_left_iff, bind_eq_ok_iff]
    simp only [bind_eq_ok_iff, ih]
    constructor
    · rintro ⟨y, hx, rest, hxs, hys⟩
      cases hys
      exact ⟨y, rest, hx, hxs, rfl⟩
    · rintro ⟨y, rest, hx, hxs, rfl⟩
      exact ⟨y, hx, rest, hxs, rfl⟩

lemma mapM_eq_error_iff {ε α β : Type} {f : α → Except ε β} {xs : List α} {e : ε} :
    xs.mapM f = .error e ↔ ∃ before x after, xs = before ++ x :: after ∧
      (∀ y ∈ before, ∃ b, f y = .ok b) ∧ f x = .error e := by
  induction xs with
  | nil => simp [pure, Except.pure]
  | cons x xs ih =>
    rw [List.mapM_cons]
    simp only [List.cons_eq_append_iff]
    cases hx : f x with
    | error e' =>
      constructor
      · intro h
        have he : e' = e := Except.error.inj h
        exact ⟨[], x, xs, .inl ⟨rfl, rfl⟩, by simp, he ▸ hx⟩
      · rintro ⟨before, y, after, ⟨rfl, hsplit⟩ | ⟨more, rfl, -⟩, hbefore, hy⟩
        · obtain ⟨rfl, -⟩ := List.cons.inj hsplit
          rw [hx] at hy
          exact congrArg Except.error (Except.error.inj hy)
        · obtain ⟨c, hc⟩ := hbefore x List.mem_cons_self
          rw [hx] at hc
          cases hc
    | ok c =>
      constructor
      · intro h
        have hxs : xs.mapM f = .error e := by
          cases hm : xs.mapM f with
          | error e' => simpa [hm, bind, Except.bind] using h
          | ok cs => simp [hm, bind, Except.bind, pure, Except.pure] at h
        obtain ⟨before, y, after, rfl, hbefore, hy⟩ := ih.mp hxs
        refine ⟨x :: before, y, after, .inr ⟨before, rfl, rfl⟩, ?_, hy⟩
        intro z hz
        rcases List.mem_cons.mp hz with rfl | hz
        · exact ⟨c, hx⟩
        · exact hbefore z hz
      · rintro ⟨before, y, after, ⟨rfl, hsplit⟩ | ⟨more, rfl, rfl⟩, hbefore, hy⟩
        · obtain ⟨rfl, -⟩ := List.cons.inj hsplit
          rw [hx] at hy
          cases hy
        · have hxs := ih.mpr
            ⟨more, y, after, rfl, fun z hz => hbefore z (List.mem_cons_of_mem _ hz), hy⟩
          rw [hxs]
          rfl

end HstsPreload
