import Mathlib.Tactic.Lemma

/-!
# Things put among others

A sequence, and the same one with further things put anywhere into it. A test that all of these
fail keeps the same from both.
-/

namespace HstsPreload

/-- Things in order with further ones put anywhere among them. -/
inductive Padded {α : Type} (extra : α → Prop) : List α → List α → Prop where
  | nil : Padded extra [] []
  | keep (a : α) {as bs : List α} : Padded extra as bs → Padded extra (a :: as) (a :: bs)
  | insert {a : α} {as bs : List α} : extra a → Padded extra as bs → Padded extra as (a :: bs)

namespace Padded

variable {α : Type} {extra P : α → Prop} {as bs : List α}

lemma refl (as : List α) : Padded extra as as := by
  induction as with
  | nil => exact .nil
  | cons a as ih => exact .keep a ih

lemma append {cs ds : List α} (h : Padded extra as bs) (h' : Padded extra cs ds) :
    Padded extra (as ++ cs) (bs ++ ds) := by
  induction h with
  | nil => exact h'
  | keep a _ ih => exact .keep a ih
  | insert hextra _ ih => exact .insert hextra ih

lemma twice {first last : α} (hf : extra first) (hl : extra last) (n : Nat) (as : List α) :
    Padded extra as (as.take n ++ first :: (as.drop n ++ [last])) := by
  have hend : Padded extra (as.drop n ++ []) (as.drop n ++ [last]) :=
    (refl _).append (.insert hl .nil)
  have h := (refl (as.take n)).append (.insert hf hend)
  rwa [List.append_nil, List.take_append_drop] at h

lemma forall_mem (h : Padded extra as bs) (ha : ∀ a ∈ as, P a) (he : ∀ a, extra a → P a) :
    ∀ b ∈ bs, P b := by
  induction h with
  | nil => exact ha
  | keep a _ ih =>
    obtain ⟨hfirst, hmore⟩ := List.forall_mem_cons.mp ha
    exact List.forall_mem_cons.mpr ⟨hfirst, ih hmore⟩
  | insert hextra _ ih => exact List.forall_mem_cons.mpr ⟨he _ hextra, ih ha⟩

lemma filter_congr {p : α → Bool} (h : Padded extra as bs) (he : ∀ a, extra a → p a = false) :
    bs.filter p = as.filter p := by
  induction h with
  | nil => rfl
  | keep a _ ih => rw [List.filter_cons, List.filter_cons, ih]
  | insert hextra _ ih => rw [List.filter_cons_of_neg (by simp [he _ hextra]), ih]

lemma filter_eq {p : α → Bool} (h : Padded extra as bs) (ha : ∀ a ∈ as, p a = true)
    (he : ∀ a, extra a → p a = false) : bs.filter p = as := by
  rw [h.filter_congr he, List.filter_eq_self.mpr ha]

end Padded

end HstsPreload
