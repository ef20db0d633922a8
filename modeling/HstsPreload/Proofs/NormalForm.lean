import HstsPreload.Proofs.Alphabet
import HstsPreload.Proofs.Lines

/-!
# The composed normal form

Two texts are in the same order if ordering makes the same of them. Composing an ordered text and
taking the result apart again leads back to the same order: a mark that was joined to a base
character comes out in front of marks of other classes only. So composing a composed text changes
nothing, and neither does it for the pieces between its full stops, with which nothing joins.
-/

namespace HstsPreload.Unicode

open HstsPreload.Text

/-- Whether ordering makes the same of two texts, whatever marks come before. -/
def SameOrder (cs ds : List Char) : Prop :=
  ∀ marks, orderMarks marks cs = orderMarks marks ds

/-- Whether marks stand in the order of their classes behind a mark of class `k`. -/
def Ordered : Nat → List Char → Prop
  | _, [] => True
  | k, c :: rest => (combiningClass c = 0 ∨ k ≤ combiningClass c) ∧ Ordered (combiningClass c) rest

def apart (cs : List Char) : List Char :=
  cs.flatMap (decomposeChar 5)

section Order

variable {k l : Nat} {c d : Char} {cs ds marks : List Char}

@[simp]
lemma combiningClass_stop : combiningClass '.' = 0 :=
  rfl

lemma Ordered.mono (h : Ordered k cs) (hl : l ≤ k) : Ordered l cs := by
  cases cs with
  | nil => trivial
  | cons c cs =>
    obtain ⟨hc | hc, hcs⟩ := h
    · exact ⟨.inl hc, hcs⟩
    · exact ⟨.inr (Nat.le_trans hl hc), hcs⟩

lemma insertMark_comm (h : combiningClass c ≠ combiningClass d) :
    insertMark c (insertMark d marks) = insertMark d (insertMark c marks) := by
  induction marks with
  | nil =>
    simp only [insertMark]
    split_ifs <;> first | rfl | omega
  | cons e marks ih =>
    simp only [insertMark]
    by_cases hc : combiningClass c < combiningClass e
    · by_cases hd : combiningClass d < combiningClass e
      · simp only [hc, hd, if_true, insertMark]
        split_ifs <;> first | rfl | omega
      · simp only [hc, hd, if_true, if_false, insertMark]
        split_ifs <;> first | rfl | omega
    · by_cases hd : combiningClass d < combiningClass e
      · simp only [hc, hd, if_true, if_false, insertMark]
        split_ifs <;> first | rfl | omega
      · simp only [hc, hd, if_false, insertMark, ih]

lemma SameOrder.append_left (h : SameOrder cs ds) (front : List Char) :
    SameOrder (front ++ cs) (front ++ ds) := by
  intro marks
  induction front generalizing marks with
  | nil => exact h marks
  | cons c front ih =>
    simp only [List.cons_append, orderMarks]
    rw [ih, ih]

lemma sameOrder_swap (hc : combiningClass c ≠ 0) (hd : combiningClass d ≠ 0)
    (h : combiningClass c ≠ combiningClass d) : SameOrder (c :: d :: cs) (d :: c :: cs) := by
  intro marks
  simp only [orderMarks, if_neg hc, if_neg hd]
  rw [insertMark_comm h.symm]

lemma sameOrder_move (hc : combiningClass c ≠ 0)
    (h : ∀ d ∈ ds, combiningClass d ≠ 0 ∧ combiningClass d ≠ combiningClass c) :
    SameOrder (c :: (ds ++ cs)) (ds ++ c :: cs) := by
  induction ds with
  | nil => exact fun _ => rfl
  | cons d ds ih =>
    have hd := h d List.mem_cons_self
    intro marks
    calc orderMarks marks (c :: (d :: ds ++ cs))
        = orderMarks marks (d :: c :: (ds ++ cs)) := sameOrder_swap hc hd.1 hd.2.symm marks
      _ = orderMarks marks (d :: (ds ++ c :: cs)) :=
          (ih fun e he => h e (List.mem_cons_of_mem _ he)).append_left [d] marks

lemma insertMark_of_le (h : ∀ d ∈ marks, combiningClass d ≤ combiningClass c) :
    insertMark c marks = marks ++ [c] := by
  induction marks with
  | nil => rfl
  | cons d marks ih =>
    have hd := h d List.mem_cons_self
    rw [insertMark, if_neg (by omega), ih fun e he => h e (List.mem_cons_of_mem _ he)]
    rfl

lemma orderMarks_of_ordered (h : Ordered k cs) (hmarks : ∀ d ∈ marks, combiningClass d ≤ k) :
    orderMarks marks cs = marks ++ cs := by
  induction cs generalizing k marks with
  | nil => simp [orderMarks]
  | cons c cs ih =>
    obtain ⟨hc, hcs⟩ := h
    rw [orderMarks]
    split_ifs with hzero
    · rw [ih hcs (by simp)]
      rfl
    · have hle : ∀ d ∈ marks, combiningClass d ≤ combiningClass c := fun d hd =>
        Nat.le_trans (hmarks d hd) (hc.resolve_left hzero)
      rw [insertMark_of_le hle, ih hcs]
      · simp
      · intro d hd
        rcases List.mem_append.mp hd with hd | hd
        · exact hle d hd
        · rw [List.mem_singleton.mp hd]

lemma mem_insertMark : d ∈ insertMark c marks ↔ d = c ∨ d ∈ marks := by
  induction marks with
  | nil => simp [insertMark]
  | cons e marks ih =>
    rw [insertMark]
    split_ifs
    · simp
    · simp [ih, or_left_comm]

lemma mem_orderMarks : d ∈ orderMarks marks cs ↔ d ∈ marks ∨ d ∈ cs := by
  induction cs generalizing marks with
  | nil => simp [orderMarks]
  | cons c cs ih =>
    rw [orderMarks]
    split_ifs
    · simp [ih]
    · simp [ih, mem_insertMark, or_assoc, or_left_comm]

/-- Whether marks, none of them a base character, stand in the order of their classes. -/
def InOrder (marks : List Char) : Prop :=
  (∀ d ∈ marks, combiningClass d ≠ 0) ∧
    marks.Pairwise fun d e => combiningClass d ≤ combiningClass e

lemma InOrder.insertMark (h : InOrder marks) (hc : combiningClass c ≠ 0) :
    InOrder (insertMark c marks) := by
  obtain ⟨hzero, hle⟩ := h
  constructor
  · intro d hd
    rcases mem_insertMark.mp hd with rfl | hd
    · exact hc
    · exact hzero d hd
  · induction marks with
    | nil => simp [Unicode.insertMark]
    | cons e marks ih =>
      obtain ⟨he, hle⟩ := List.pairwise_cons.mp hle
      rw [Unicode.insertMark]
      split_ifs with hlt
      · refine .cons ?_ (.cons he hle)
        intro d hd
        rcases List.mem_cons.mp hd with rfl | hd
        · exact Nat.le_of_lt hlt
        · exact Nat.le_trans (Nat.le_of_lt hlt) (he d hd)
      · refine .cons ?_ (ih (fun d hd => hzero d (List.mem_cons_of_mem _ hd)) hle)
        intro d hd
        rcases mem_insertMark.mp hd with rfl | hd
        · exact Nat.le_of_not_lt hlt
        · exact he d hd

lemma InOrder.ordered_append (h : InOrder marks) (hle : ∀ d ∈ marks, k ≤ combiningClass d)
    (hcs : ∀ l, Ordered l cs) : Ordered k (marks ++ cs) := by
  induction marks generalizing k with
  | nil => exact hcs k
  | cons d marks ih =>
    obtain ⟨hzero, hpairwise⟩ := h
    obtain ⟨hd, hpairwise⟩ := List.pairwise_cons.mp hpairwise
    refine ⟨.inr (hle d List.mem_cons_self), ih ⟨?_, hpairwise⟩ hd⟩
    exact fun e he => hzero e (List.mem_cons_of_mem _ he)

lemma ordered_orderMarks (h : InOrder marks) : Ordered 0 (orderMarks marks cs) := by
  induction cs generalizing marks with
  | nil =>
    have hmarks : Ordered 0 (marks ++ []) := h.ordered_append (by simp) fun _ => trivial
    rwa [List.append_nil] at hmarks
  | cons c cs ih =>
    rw [orderMarks]
    split_ifs with hc
    · refine h.ordered_append (by simp) fun l => ⟨.inl hc, ?_⟩
      rw [hc]
      exact ih ⟨by simp, .nil⟩
    · exact ih (h.insertMark hc)

end Order

section Composing

variable {k : Nat} {base c : Char} {cs ds held rest : List Char}

lemma apart_append : apart (cs ++ ds) = apart cs ++ apart ds :=
  List.flatMap_append

lemma apart_of_plain (h : ∀ c ∈ cs, Plain c) : apart cs = cs := by
  induction cs with
  | nil => rfl
  | cons c cs ih =>
    rw [apart, List.flatMap_cons, (h c List.mem_cons_self).decomposeChar]
    exact congrArg (c :: ·) (ih fun d hd => h d (List.mem_cons_of_mem _ hd))

/-- The marks between a base character and the next character: plain and in order, the last of them
first, of classes up to `k`. -/
structure Held (k : Nat) (held : List Char) : Prop where
  mark {d : Char} : d ∈ held → Plain d ∧ combiningClass d ≠ 0 ∧ combiningClass d ≤ k
  descending : held.Pairwise fun d e => combiningClass e ≤ combiningClass d

lemma Held.nil : Held k [] :=
  ⟨nofun, .nil⟩

lemma Held.cons (h : Held k held) (hc : Plain c) (hzero : combiningClass c ≠ 0)
    (hk : k ≤ combiningClass c) : Held (combiningClass c) (c :: held) := by
  refine ⟨?_, .cons ?_ h.descending⟩
  · intro d hd
    rcases List.mem_cons.mp hd with rfl | hd
    · exact ⟨hc, hzero, Nat.le_refl _⟩
    · obtain ⟨hplain, hmark, hle⟩ := h.mark hd
      exact ⟨hplain, hmark, Nat.le_trans hle hk⟩
  · intro d hd
    exact Nat.le_trans (h.mark hd).2.2 hk

/-- Whether composing may join a character to the base character in front of the marks. -/
def isFree (held : List Char) (c : Char) : Bool :=
  match held with
  | [] => true
  | d :: _ => decide (combiningClass d < combiningClass c)

lemma Held.lt_of_isFree (h : Held k held) (hfree : isFree held c = true) {d : Char}
    (hd : d ∈ held) : combiningClass d < combiningClass c := by
  cases held with
  | nil => cases hd
  | cons e held =>
    have he : combiningClass e < combiningClass c := of_decide_eq_true hfree
    rcases List.mem_cons.mp hd with rfl | hd
    · exact he
    · exact Nat.lt_of_le_of_lt ((List.pairwise_cons.mp h.descending).1 d hd) he

/-- What composing does with the next character: it joins it to the base character, starts anew with
it, or holds it back. -/
lemma composeFrom_cons : composeFrom base held (c :: rest) =
    match if isFree held c then composePair base c else none with
    | some joined => composeFrom joined held rest
    | none =>
      if combiningClass c = 0 then base :: held.reverse ++ composeFrom c [] rest
      else composeFrom base (c :: held) rest := by
  cases held with
  | nil =>
    rw [composeFrom]
    rfl
  | cons d held =>
    rw [composeFrom]
    rfl

/-- Composing leads back to the same order when the result is taken apart. -/
lemma sameOrder_composeFrom (hheld : Held k held) (hrest : Ordered k rest)
    (hplain : ∀ c ∈ rest, Plain c) :
    SameOrder (apart (composeFrom base held rest))
      (decomposeChar 5 base ++ (held.reverse ++ rest)) := by
  have hmarks : ∀ d ∈ held.reverse, Plain d := fun d hd => (hheld.mark (List.mem_reverse.mp hd)).1
  induction rest generalizing k base held with
  | nil =>
    rw [composeFrom, List.append_nil, apart, List.flatMap_cons]
    rw [← apart, apart_of_plain hmarks]
    exact fun _ => rfl
  | cons c rest ih =>
    have hc := hplain c List.mem_cons_self
    have hplain : ∀ d ∈ rest, Plain d := fun d hd => hplain d (List.mem_cons_of_mem _ hd)
    obtain ⟨hle, hrest⟩ := hrest
    rw [composeFrom_cons]
    split
    · next joined hjoined =>
      split_ifs at hjoined with hfree
      have hlt := fun d (hd : d ∈ held) => hheld.lt_of_isFree hfree hd
      have hheld' : Held (combiningClass c) held :=
        ⟨fun hd => ⟨(hheld.mark hd).1, (hheld.mark hd).2.1, Nat.le_of_lt (hlt _ hd)⟩,
          hheld.descending⟩
      -- taken apart, the joined mark stands in front of the marks held back, not behind them
      intro marks
      rw [ih hheld' hrest hplain hmarks marks, decomposeChar_composePair hjoined,
        hc.decomposeChar, List.append_assoc]
      refine SameOrder.append_left ?_ _ marks
      by_cases hzero : combiningClass c = 0
      · have : held = [] := List.eq_nil_iff_forall_not_mem.mpr fun d hd => by
          have := hlt d hd
          omega
        rw [this]
        exact fun _ => rfl
      · rw [List.singleton_append]
        refine sameOrder_move hzero fun d hd => ?_
        have hd := List.mem_reverse.mp hd
        exact ⟨(hheld.mark hd).2.1, Nat.ne_of_lt (hlt d hd)⟩
    · split_ifs with hzero
      · have hnext : SameOrder (apart (composeFrom c [] rest)) (decomposeChar 5 c ++ rest) :=
          ih Held.nil (hzero ▸ hrest) hplain (by simp)
        rw [apart_append, apart, List.flatMap_cons, ← apart, apart_of_plain hmarks,
          List.append_assoc]
        rw [hc.decomposeChar] at hnext
        exact (hnext.append_left _).append_left _
      · have hheld' := hheld.cons hc hzero (hle.resolve_left hzero)
        have hnext : SameOrder (apart (composeFrom base (c :: held) rest))
            (decomposeChar 5 base ++ ((c :: held).reverse ++ rest)) :=
          ih hheld' hrest hplain fun d hd => (hheld'.mark (List.mem_reverse.mp hd)).1
        rwa [List.reverse_cons, List.append_assoc] at hnext

lemma sameOrder_compose (hcs : Ordered k cs) (hplain : ∀ c ∈ cs, Plain c) :
    SameOrder (apart (compose cs)) cs := by
  induction cs generalizing k with
  | nil => exact fun _ => rfl
  | cons c cs ih =>
    have hc := hplain c List.mem_cons_self
    have hplain : ∀ d ∈ cs, Plain d := fun d hd => hplain d (List.mem_cons_of_mem _ hd)
    obtain ⟨-, hcs⟩ := hcs
    rw [compose]
    split_ifs with hzero
    · have hfirst : SameOrder (apart (composeFrom c [] cs)) (decomposeChar 5 c ++ cs) :=
        sameOrder_composeFrom Held.nil hcs hplain
      rwa [hc.decomposeChar] at hfirst
    · rw [apart, List.flatMap_cons, hc.decomposeChar]
      exact (ih hcs hplain).append_left [c]

lemma orderMarks_apart_compose (hcs : Ordered 0 cs) (hplain : ∀ c ∈ cs, Plain c) :
    orderMarks [] (apart (compose cs)) = cs :=
  (sameOrder_compose hcs hplain []).trans (orderMarks_of_ordered hcs (by simp))

end Composing

section Stops

variable {base c : Char} {cs ds held rest : List Char}

lemma composePair_stop : composePair '.' c = none := by
  by_contra h
  obtain ⟨j, hj⟩ := Option.ne_none_iff_exists'.mp h
  exact (ne_stop_of_composePair hj).1 rfl

lemma composePair_to_stop : composePair c '.' = none := by
  by_contra h
  obtain ⟨j, hj⟩ := Option.ne_none_iff_exists'.mp h
  exact (ne_stop_of_composePair hj).2.1 rfl

lemma composeFrom_stop : composeFrom '.' held rest = '.' :: held.reverse ++ compose rest := by
  induction rest generalizing held with
  | nil => simp [composeFrom, compose]
  | cons c rest ih =>
    rw [composeFrom_cons, composePair_stop, ite_self, compose]
    dsimp only
    split_ifs with hzero
    · rfl
    · rw [ih, List.reverse_cons, List.cons_append, List.append_assoc]
      rfl

lemma composeFrom_append_stop :
    composeFrom base held (cs ++ '.' :: ds) = composeFrom base held cs ++ '.' :: compose ds := by
  induction cs generalizing base held with
  | nil =>
    rw [List.nil_append, composeFrom_cons, composePair_to_stop, ite_self, composeFrom]
    dsimp only
    rw [if_pos combiningClass_stop, composeFrom_stop]
    rfl
  | cons c cs ih =>
    rw [List.cons_append, composeFrom_cons, composeFrom_cons]
    split
    · exact ih
    · split_ifs
      · rw [ih, List.append_assoc]
      · exact ih

/-- Full stops cut a text into pieces that are composed each on its own. -/
lemma compose_append_stop : compose (cs ++ '.' :: ds) = compose cs ++ '.' :: compose ds := by
  induction cs with
  | nil =>
    have hstop : compose ('.' :: ds) = composeFrom '.' [] ds := if_pos combiningClass_stop
    rw [List.nil_append, hstop, composeFrom_stop]
    rfl
  | cons c cs ih =>
    rw [List.cons_append, compose, compose]
    split_ifs
    · exact composeFrom_append_stop
    · rw [ih]
      rfl

lemma forall_composeFrom {P : Char → Prop}
    (hjoin : ∀ {a b j}, P a → P b → composePair a b = some j → P j) (hbase : P base)
    (hheld : ∀ c ∈ held, P c) (hrest : ∀ c ∈ rest, P c) :
    ∀ c ∈ composeFrom base held rest, P c := by
  induction rest generalizing base held with
  | nil =>
    intro c hc
    rw [composeFrom, List.mem_cons, List.mem_reverse] at hc
    rcases hc with rfl | hc
    · exact hbase
    · exact hheld c hc
  | cons d rest ih =>
    have hd := hrest d List.mem_cons_self
    have hrest : ∀ c ∈ rest, P c := fun c hc => hrest c (List.mem_cons_of_mem _ hc)
    rw [composeFrom_cons]
    split
    · next joined hjoined =>
      split_ifs at hjoined
      exact ih (hjoin hbase hd hjoined) hheld hrest
    · split_ifs
      · intro c hc
        simp only [List.mem_append, List.mem_cons, List.mem_reverse] at hc
        rcases hc with (rfl | hc) | hc
        · exact hbase
        · exact hheld c hc
        · exact ih hd (by simp) hrest c hc
      · refine ih hbase ?_ hrest
        intro c hc
        rcases List.mem_cons.mp hc with rfl | hc
        · exact hd
        · exact hheld c hc

lemma forall_compose {P : Char → Prop}
    (hjoin : ∀ {a b j}, P a → P b → composePair a b = some j → P j) (hcs : ∀ c ∈ cs, P c) :
    ∀ c ∈ compose cs, P c := by
  induction cs with
  | nil => simp [compose]
  | cons c cs ih =>
    have hc := hcs c List.mem_cons_self
    have hcs : ∀ d ∈ cs, P d := fun d hd => hcs d (List.mem_cons_of_mem _ hd)
    rw [compose]
    split_ifs
    · exact forall_composeFrom hjoin hc (by simp) hcs
    · intro d hd
      rcases List.mem_cons.mp hd with rfl | hd
      · exact hc
      · exact ih hcs d hd

lemma splitAt_compose : splitAt '.' (compose cs) = (splitAt '.' cs).map compose := by
  -- on the length, as composing does not proceed piece by piece
  induction hn : cs.length using Nat.strong_induction_on generalizing cs with
  | _ n ih =>
    by_cases hstop : '.' ∈ cs
    · obtain ⟨front, rest, rfl⟩ := List.append_of_mem hstop
      have hlength : front.length + (rest.length + 1) = n := by simpa using hn
      rw [compose_append_stop, splitAt_append, splitAt_append, List.map_append,
        ih front.length (by omega) rfl, ih rest.length (by omega) rfl]
    · have : '.' ∉ compose cs := by
        intro h
        refine forall_compose (P := fun c => c ≠ '.') ?_ ?_ '.' h rfl
        · exact fun _ _ hj => (ne_stop_of_composePair hj).2.2
        · rintro c hc rfl
          exact hstop hc
      rw [splitAt_of_not_mem this, splitAt_of_not_mem hstop]
      rfl

end Stops

section Composed

variable {k : Nat} {c : Char} {cs piece : List Char}

lemma Ordered.of_append_left (h : Ordered k (cs ++ piece)) : Ordered k cs := by
  induction cs generalizing k with
  | nil => trivial
  | cons c cs ih => exact ⟨h.1, ih h.2⟩

lemma Ordered.of_append_right (h : Ordered k (cs ++ piece)) : Ordered 0 piece := by
  induction cs generalizing k with
  | nil => exact h.mono (Nat.zero_le k)
  | cons c cs ih => exact ih h.2

lemma Ordered.of_infix (h : Ordered 0 cs) (hpiece : piece <:+: cs) : Ordered 0 piece := by
  obtain ⟨front, back, rfl⟩ := hpiece
  exact h.of_append_left.of_append_right

/-- What composing composes: the characters taken apart, with their marks in order. -/
def ordered (cs : List Char) : List Char :=
  orderMarks [] (apart cs)

lemma plain_ordered (hc : c ∈ ordered cs) : Plain c := by
  rcases mem_orderMarks.mp hc with hc | hc
  · cases hc
  · obtain ⟨d, -, hd⟩ := List.mem_flatMap.mp hc
    exact plain_of_mem_decomposeChar hd

lemma ordered_ordered : Ordered 0 (ordered cs) :=
  ordered_orderMarks ⟨by simp, .nil⟩

lemma composed_cases (cs : List Char) :
    (∀ c ∈ cs, c.toNat < 0x300) ∧ composed cs = cs ∨ composed cs = compose (ordered cs) := by
  unfold composed
  split_ifs with h
  · exact .inl ⟨by simpa using h, rfl⟩
  · exact .inr rfl

lemma composed_compose (hcs : Ordered 0 cs) (hplain : ∀ c ∈ cs, Plain c) :
    composed (compose cs) = compose cs := by
  rcases composed_cases (compose cs) with ⟨-, h⟩ | h
  · exact h
  · rw [h, ordered, orderMarks_apart_compose hcs hplain]

theorem composed_piece (h : piece ∈ splitAt '.' (composed cs)) : composed piece = piece := by
  rcases composed_cases cs with ⟨hlow, hcs⟩ | hcs
  · rw [hcs] at h
    have hpiece : ∀ c ∈ piece, c.toNat < 0x300 := fun c hc =>
      hlow c ((infix_of_mem_splitAt h).subset hc)
    rw [composed, if_pos (by simpa using hpiece)]
  · rw [hcs, splitAt_compose] at h
    obtain ⟨part, hpart, rfl⟩ := List.mem_map.mp h
    have hwithin := infix_of_mem_splitAt hpart
    exact composed_compose (ordered_ordered.of_infix hwithin) fun c hc =>
      plain_ordered (hwithin.subset hc)

lemma composed_ascii (h : ∀ c ∈ cs, c.toNat < 128) : composed cs = cs := by
  have hlow : ∀ c ∈ cs, c.toNat < 0x300 := fun c hc => Nat.lt_trans (h c hc) (by decide)
  rw [composed, if_pos (by simpa using hlow)]

/-- Composing stays within the characters that mapping leaves as they are. -/
theorem kept_composed (h : ∀ c ∈ cs, Kept c) : ∀ c ∈ composed cs, Kept c := by
  rcases composed_cases cs with ⟨-, hcs⟩ | hcs
  · rwa [hcs]
  · rw [hcs]
    apply forall_compose fun ha hb hj => Kept.composePair ha hb hj
    intro c hc
    rcases mem_orderMarks.mp hc with hc | hc
    · cases hc
    · obtain ⟨d, hd, hc⟩ := List.mem_flatMap.mp hc
      exact (h d hd).decomposeChar hc

end Composed

end HstsPreload.Unicode
