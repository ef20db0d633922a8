import HstsPreload.Text.Blank
import Mathlib.Data.List.DropRight
import Mathlib.Tactic.Lemma
import Mathlib.Tactic.SplitIfs

/-!
# Trimming and letters

Blanks at the ends of a text do not count once it is trimmed, and a text is trimmed in the same way
in either case of its letters.
-/

namespace HstsPreload.Text

variable {p : Char → Bool} {cs : List Char}

lemma dropWhile_eq_self (h : ∀ c, cs.head? = some c → p c = false) : cs.dropWhile p = cs := by
  cases cs with
  | nil => rfl
  | cons c cs => rw [List.dropWhile_cons, h c rfl, if_neg Bool.false_ne_true]

lemma dropEndWhile_eq_self (h : ∀ c, cs.getLast? = some c → p c = false) :
    dropEndWhile p cs = cs := by
  rw [dropEndWhile, dropWhile_eq_self, List.reverse_reverse]
  simpa using h

lemma dropEndWhile_append {back : List Char} (h : ∀ c ∈ back, p c = true) (cs : List Char) :
    dropEndWhile p (cs ++ back) = dropEndWhile p cs := by
  have hback : ∀ c ∈ back.reverse, p c = true := fun c hc => h c (List.mem_reverse.mp hc)
  rw [dropEndWhile, List.reverse_append, List.dropWhile_append_of_pos hback, dropEndWhile]

lemma dropEndWhile_append_cons {c : Char} (h : p c = false) (front back : List Char) :
    dropEndWhile p (front ++ c :: back) = front ++ c :: dropEndWhile p back := by
  have hdrop : (back.reverse ++ c :: front.reverse).dropWhile p =
      back.reverse.dropWhile p ++ c :: front.reverse := by
    rw [List.dropWhile_append]
    split_ifs with hblank
    · rw [List.isEmpty_iff.mp hblank, List.dropWhile_cons, h, if_neg Bool.false_ne_true,
        List.nil_append]
    · rfl
  have hreverse : (front ++ c :: back).reverse = back.reverse ++ c :: front.reverse := by simp
  rw [dropEndWhile, hreverse, hdrop, dropEndWhile]
  simp

lemma exists_dropEndWhile_append (p : Char → Bool) (cs : List Char) :
    ∃ back, dropEndWhile p cs ++ back = cs ∧ ∀ c ∈ back, p c = true := by
  refine ⟨(cs.reverse.takeWhile p).reverse, ?_, fun c hc => ?_⟩
  · rw [dropEndWhile, ← List.reverse_append, List.takeWhile_append_dropWhile, List.reverse_reverse]
  · exact List.mem_takeWhile_imp (List.mem_reverse.mp hc)

lemma prefix_dropEndWhile (p : Char → Bool) (cs : List Char) : dropEndWhile p cs <+: cs := by
  rw [← List.reverse_suffix, dropEndWhile, List.reverse_reverse]
  exact List.dropWhile_suffix p

lemma getLast?_dropEndWhile {c : Char} (h : (dropEndWhile p cs).getLast? = some c) :
    p c = false := by
  rw [dropEndWhile, List.getLast?_reverse] at h
  simpa [h] using List.head?_dropWhile_not p cs.reverse

/-! ### Blanks at the ends -/

lemma trim_eq_self (h : ∀ c ∈ cs, isBlank c = false) : trim cs = cs := by
  have hstart : trimStart cs = cs := dropWhile_eq_self fun c hc => h c (List.mem_of_mem_head? hc)
  rw [trim, hstart, dropEndWhile_eq_self fun c hc => h c (List.mem_of_getLast? hc)]

lemma trim_append_left {front : List Char} (h : ∀ c ∈ front, isBlank c = true)
    (cs : List Char) : trim (front ++ cs) = trim cs := by
  rw [trim, trimStart, List.dropWhile_append_of_pos h, trim, trimStart]

lemma trim_append_right {back : List Char} (h : ∀ c ∈ back, isBlank c = true) (cs : List Char) :
    trim (cs ++ back) = trim cs := by
  rw [trim, trimStart, List.dropWhile_append, trim, trimStart]
  split_ifs with hblank
  · have hback : back.dropWhile isBlank = [] := List.dropWhile_eq_nil_iff.mpr h
    rw [hback, List.isEmpty_iff.mp hblank]
  · exact dropEndWhile_append h _

lemma trim_eq_nil (h : ∀ c ∈ cs, isBlank c = true) : trim cs = [] := by
  have hnil := trim_append_left h []
  rwa [List.append_nil] at hnil

lemma trim_append_cons {c : Char} (h : isBlank c = false) (front back : List Char) :
    trim (front ++ c :: back) = trimStart front ++ c :: dropEndWhile isBlank back := by
  have hstart : trimStart (front ++ c :: back) = trimStart front ++ c :: back := by
    rw [trimStart, List.dropWhile_append, trimStart]
    split_ifs with hblank
    · rw [List.isEmpty_iff.mp hblank, List.dropWhile_cons, h, if_neg Bool.false_ne_true,
        List.nil_append]
    · rfl
  rw [trim, hstart, dropEndWhile_append_cons h]

lemma trim_trimStart (cs : List Char) : trim (trimStart cs) = trim cs := by
  rw [trim, trim, trimStart, trimStart, List.dropWhile_idempotent]

lemma trim_dropEndWhile (cs : List Char) : trim (dropEndWhile isBlank cs) = trim cs := by
  obtain ⟨back, hback, hblank⟩ := exists_dropEndWhile_append isBlank cs
  conv_rhs => rw [← hback, trim_append_right hblank]

/-! ### Small letters -/

lemma toLower_cases (c : Char) : c.toLower = c ∧ ¬(0x41 ≤ c.toNat ∧ c.toNat ≤ 0x5a) ∨
    (0x41 ≤ c.toNat ∧ c.toNat ≤ 0x5a) ∧ c.toLower.toNat = c.toNat + 32 := by
  have hcapital : (c.val ≥ 'A'.val ∧ c.val ≤ 'Z'.val) ↔ 0x41 ≤ c.toNat ∧ c.toNat ≤ 0x5a := Iff.rfl
  unfold Char.toLower
  split_ifs with h
  · rw [hcapital] at h
    refine .inr ⟨h, ?_⟩
    change (c.toNat + 32) % 2 ^ 32 = _
    omega
  · exact .inl ⟨rfl, h⟩

lemma isBlank_toLower (c : Char) : isBlank c.toLower = isBlank c := by
  rcases toLower_cases c with ⟨hsame, -⟩ | ⟨hcapital, hlower⟩
  · rw [hsame]
  · -- neither a capital nor its small letter is a blank
    rw [Bool.eq_iff_iff]
    simp only [isBlank, hlower, Bool.or_eq_true, Bool.and_eq_true, decide_eq_true_eq, beq_iff_eq]
    omega

lemma trim_lowerAscii (cs : List Char) : trim (lowerAscii cs) = lowerAscii (trim cs) := by
  have hblank : isBlank ∘ Char.toLower = isBlank := funext isBlank_toLower
  simp only [trim, trimStart, dropEndWhile, lowerAscii, List.dropWhile_map, ← List.map_reverse,
    hblank]

end HstsPreload.Text
