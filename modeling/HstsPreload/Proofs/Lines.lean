import HstsPreload.Pending.Edit
import Mathlib.Tactic.Lemma
import Mathlib.Tactic.SplitIfs

/-!
# Texts and their lines

Cutting a text at a separator and joining pieces undo each other. So lines that are written one
below the other, with or without a line feed at the end, are the lines that are found, both by the
editor of the list and by its reader.
-/

namespace HstsPreload.Text

variable {sep c : Char} {cs : List Char}

lemma stripEnd_concat (c : Char) (cs : List Char) : stripEnd c (cs ++ [c]) = cs := by
  simp [stripEnd]

lemma stripEnd_of_getLast?_ne (h : cs.getLast? ≠ some c) : stripEnd c cs = cs := by
  simp [stripEnd, h]

lemma stripEnd_cases (c : Char) (cs : List Char) :
    stripEnd c cs = cs ∨ ∃ start, cs = start ++ [c] ∧ stripEnd c cs = start := by
  by_cases h : cs.getLast? = some c
  · obtain ⟨start, rfl⟩ := List.getLast?_eq_some_iff.mp h
    exact .inr ⟨start, rfl, stripEnd_concat c start⟩
  · exact .inl (stripEnd_of_getLast?_ne h)

/-! ### Cutting once -/

lemma splitOnce_append {front : List Char} (h : sep ∉ front) (back : List Char) :
    splitOnce sep (front ++ sep :: back) = some (front, back) := by
  induction front with
  | nil => rw [List.nil_append, splitOnce, if_pos rfl]
  | cons c front ih =>
    have hc : c ≠ sep := fun e => h (e ▸ List.mem_cons_self)
    rw [List.cons_append, splitOnce, if_neg hc, ih fun hm => h (List.mem_cons_of_mem _ hm)]
    rfl

lemma splitOnce_of_not_mem (h : sep ∉ cs) : splitOnce sep cs = none := by
  induction cs with
  | nil => rfl
  | cons c cs ih =>
    have hc : c ≠ sep := fun e => h (e ▸ List.mem_cons_self)
    rw [splitOnce, if_neg hc, ih fun hm => h (List.mem_cons_of_mem _ hm)]
    rfl

/-! ### Cutting everywhere -/

/-- Pieces that come behind another, each with the separator before it. -/
def continued (sep : Char) (pieces : List (List Char)) : List Char :=
  pieces.flatMap (sep :: ·)

@[simp] lemma continued_nil : continued sep [] = [] :=
  rfl

@[simp] lemma continued_cons (piece : List Char) (pieces : List (List Char)) :
    continued sep (piece :: pieces) = sep :: (piece ++ continued sep pieces) :=
  rfl

@[simp] lemma continued_append (ps qs : List (List Char)) :
    continued sep (ps ++ qs) = continued sep ps ++ continued sep qs :=
  List.flatMap_append

lemma joinWith_cons (piece : List Char) (pieces : List (List Char)) :
    joinWith sep (piece :: pieces) = piece ++ continued sep pieces := by
  induction pieces generalizing piece with
  | nil => simp [joinWith]
  | cons next more ih => rw [joinWith, ih, continued_cons]; simp

lemma splitAt_ne_nil (sep : Char) (cs : List Char) : splitAt sep cs ≠ [] := by
  cases cs with
  | nil => simp [splitAt]
  | cons c rest =>
    rw [splitAt]
    split_ifs
    · simp
    · split <;> simp

lemma splitAt_append (cs rest : List Char) :
    splitAt sep (cs ++ sep :: rest) = splitAt sep cs ++ splitAt sep rest := by
  induction cs with
  | nil => simp [splitAt]
  | cons c cs ih =>
    rw [List.cons_append, splitAt, splitAt, ih]
    split_ifs with hc
    · rfl
    · match splitAt sep cs, splitAt_ne_nil sep cs with
      | piece :: pieces, _ => rfl

lemma splitAt_of_not_mem {piece : List Char} (h : sep ∉ piece) : splitAt sep piece = [piece] := by
  induction piece with
  | nil => rfl
  | cons d piece ih =>
    have hd : d ≠ sep := fun e => h (e ▸ List.mem_cons_self)
    have hpiece : sep ∉ piece := fun hm => h (List.mem_cons_of_mem _ hm)
    rw [splitAt, if_neg hd, ih hpiece]

lemma splitAt_joinWith_flatMap {pieces : List (List Char)} (hne : pieces ≠ []) :
    splitAt sep (joinWith sep pieces) = pieces.flatMap (splitAt sep) := by
  match pieces, hne with
  | piece :: pieces, _ =>
    rw [joinWith_cons]
    induction pieces generalizing piece with
    | nil => simp
    | cons next more ih =>
      rw [continued_cons, splitAt_append, ih next (by simp)]
      rfl

theorem splitAt_joinWith {pieces : List (List Char)} (hne : pieces ≠ [])
    (h : ∀ piece ∈ pieces, sep ∉ piece) : splitAt sep (joinWith sep pieces) = pieces := by
  rw [splitAt_joinWith_flatMap hne]
  clear hne
  induction pieces with
  | nil => rfl
  | cons piece pieces ih =>
    have hpiece := splitAt_of_not_mem (h piece List.mem_cons_self)
    rw [List.flatMap_cons, hpiece, ih fun p hp => h p (List.mem_cons_of_mem _ hp)]
    rfl

theorem not_mem_of_mem_splitAt : ∀ {cs piece : List Char}, piece ∈ splitAt sep cs → sep ∉ piece
  | [], piece, h => by
    rw [splitAt, List.mem_singleton] at h
    simp [h]
  | c :: rest, piece, h => by
    have ih : ∀ piece ∈ splitAt sep rest, sep ∉ piece := fun _ => not_mem_of_mem_splitAt
    rw [splitAt] at h
    split_ifs at h with hc
    · rcases List.mem_cons.mp h with rfl | h
      · simp
      · exact ih piece h
    · split at h
      · simp [List.mem_singleton.mp h, Ne.symm hc]
      · rename_i first more hsplit
        rw [hsplit] at ih
        rcases List.mem_cons.mp h with rfl | h
        · simp [Ne.symm hc, ih first (by simp)]
        · exact ih piece (List.mem_cons_of_mem _ h)

lemma continued_eq {pieces : List (List Char)} (hne : pieces ≠ []) :
    continued sep pieces = sep :: joinWith sep pieces := by
  match pieces, hne with
  | piece :: pieces, _ => rw [continued_cons, joinWith_cons]

theorem joinWith_splitAt (sep : Char) (cs : List Char) : joinWith sep (splitAt sep cs) = cs := by
  induction cs with
  | nil => rfl
  | cons c cs ih =>
    rw [splitAt]
    split_ifs with hc
    · rw [joinWith_cons, continued_eq (splitAt_ne_nil sep cs), ih, hc]
      rfl
    · split
      · next hnil => exact (splitAt_ne_nil sep cs hnil).elim
      · next piece pieces hsplit =>
        rw [hsplit, joinWith_cons] at ih
        rw [joinWith_cons, List.cons_append, ih]

lemma mem_joinWith {pieces : List (List Char)} (h : c ∈ joinWith sep pieces) :
    c = sep ∨ ∃ piece ∈ pieces, c ∈ piece := by
  induction pieces with
  | nil => cases h
  | cons piece pieces ih =>
    rw [joinWith_cons, List.mem_append] at h
    rcases h with h | h
    · exact .inr ⟨piece, List.mem_cons_self, h⟩
    · by_cases hnil : pieces = []
      · rw [hnil] at h
        cases h
      · rw [continued_eq hnil, List.mem_cons] at h
        rcases h with rfl | h
        · exact .inl rfl
        · rcases ih h with rfl | ⟨p, hp, hc⟩
          · exact .inl rfl
          · exact .inr ⟨p, List.mem_cons_of_mem _ hp, hc⟩

lemma infix_joinWith {piece : List Char} {pieces : List (List Char)} (h : piece ∈ pieces) :
    piece <:+: joinWith sep pieces := by
  induction pieces with
  | nil => cases h
  | cons first more ih =>
    rw [joinWith_cons]
    rcases List.mem_cons.mp h with rfl | h
    · exact (List.prefix_append _ _).isInfix
    · rw [continued_eq (List.ne_nil_of_mem h)]
      exact (ih h).trans ((List.suffix_cons sep _).trans (List.suffix_append first _)).isInfix

lemma infix_of_mem_splitAt {piece : List Char} (h : piece ∈ splitAt sep cs) : piece <:+: cs := by
  have hjoin : piece <:+: joinWith sep (splitAt sep cs) := infix_joinWith h
  rwa [joinWith_splitAt] at hjoin

lemma joinWith_concat_nil {pieces : List (List Char)} (hne : pieces ≠ []) :
    joinWith sep (pieces ++ [[]]) = joinWith sep pieces ++ [sep] := by
  match pieces, hne with
  | piece :: pieces, _ => simp [joinWith_cons]

lemma flatMap_append_sep {pieces : List (List Char)} (hne : pieces ≠ []) :
    pieces.flatMap (· ++ [sep]) = joinWith sep pieces ++ [sep] := by
  match pieces, hne with
  | piece :: pieces, _ =>
    rw [joinWith_cons]
    induction pieces generalizing piece with
    | nil => simp
    | cons next more ih => rw [List.flatMap_cons, ih next (by simp)]; simp

lemma getLast?_joinWith (pieces : List (List Char)) (piece : List Char) (c : Char) :
    (joinWith sep (pieces ++ [piece ++ [c]])).getLast? = some c := by
  cases pieces with
  | nil => simp [joinWith]
  | cons first more =>
    have hlast : joinWith sep (first :: more ++ [piece ++ [c]]) =
        first ++ (continued sep more ++ sep :: piece) ++ [c] := by
      simp [joinWith_cons]
    rw [hlast, List.getLast?_concat]

/-! ### Lines for a reader -/

lemma closeLines_concat_nil (ls : List (List Char)) :
    closeLines (ls ++ [[]]) = ls.map (stripEnd '\r') := by
  induction ls with
  | nil => rfl
  | cons l ls ih =>
    have hne : ls ++ [[]] ≠ [] := by simp
    rw [List.cons_append, List.map_cons, ← ih]
    match ls ++ [[]], hne with
    | _ :: _, _ => rfl

lemma closeLines_concat (ls : List (List Char)) {last : List Char} (hne : last ≠ [])
    (hstrip : stripEnd '\r' last = last) :
    closeLines (ls ++ [last]) = (ls ++ [last]).map (stripEnd '\r') := by
  induction ls with
  | nil => simp [closeLines, hne, hstrip]
  | cons l ls ih =>
    have hmore : ls ++ [last] ≠ [] := by simp
    rw [List.cons_append, List.map_cons, ← ih]
    match ls ++ [last], hmore with
    | _ :: _, _ => rfl

/-- Lines joined by line feeds, with or without one at the end. -/
def linesText (closed : Bool) (ls : List (List Char)) : List Char :=
  joinWith '\n' ls ++ if closed then ['\n'] else []

theorem lines_linesText (closed : Bool) {ls : List (List Char)} {last : List Char}
    (h : ∀ l ∈ ls ++ [last], '\n' ∉ l) (hne : last ≠ []) (hstrip : stripEnd '\r' last = last) :
    lines (linesText closed (ls ++ [last])) = (ls ++ [last]).map (stripEnd '\r') := by
  have hls : ls ++ [last] ≠ [] := by simp
  cases closed with
  | false =>
    simp only [linesText, Bool.false_eq_true, if_false, List.append_nil, lines]
    rw [splitAt_joinWith hls h, closeLines_concat ls hne hstrip]
  | true =>
    have hall : ∀ l ∈ ls ++ [last] ++ [[]], '\n' ∉ l := by
      intro l hl
      rcases List.mem_append.mp hl with hl | hl
      · exact h l hl
      · simp [List.mem_singleton.mp hl]
    simp only [linesText, if_true, lines]
    rw [← joinWith_concat_nil hls, splitAt_joinWith (by simp) hall, closeLines_concat_nil]

end HstsPreload.Text

namespace HstsPreload.ListText

open HstsPreload.Text

lemma ofLines_eq {ls : List (List Char)} (hne : ls ≠ []) :
    ListText.ofLines ls = .ofList (Text.linesText true ls) := by
  rw [ListText.ofLines, Text.linesText, if_pos rfl, flatMap_append_sep hne]

theorem linesOf_linesText (closed : Bool) {ls : List (List Char)} {piece : List Char} {c : Char}
    (h : ∀ l ∈ ls ++ [piece ++ [c]], '\n' ∉ l) :
    linesOf (.ofList (Text.linesText closed (ls ++ [piece ++ [c]]))) = ls ++ [piece ++ [c]] := by
  have hc : c ≠ '\n' := by
    rintro rfl
    exact h (piece ++ ['\n']) (by simp) (by simp)
  have hstrip : stripEnd '\n' (Text.linesText closed (ls ++ [piece ++ [c]])) =
      joinWith '\n' (ls ++ [piece ++ [c]]) := by
    cases closed with
    | false =>
      rw [Text.linesText, if_neg (by simp), List.append_nil]
      exact stripEnd_of_getLast?_ne (by simpa [getLast?_joinWith] using hc)
    | true => rw [Text.linesText, if_pos rfl, stripEnd_concat]
  rw [linesOf, String.toList_ofList, hstrip, splitAt_joinWith (by simp) h]

lemma mem_linesOf_ofLines {ls : List (List Char)} {line : List Char} (hl : line ∈ ls)
    (h : '\n' ∉ line) : line ∈ linesOf (ListText.ofLines ls) := by
  have hne := List.ne_nil_of_mem hl
  rw [ofLines_eq hne, linesOf, String.toList_ofList, Text.linesText, if_pos rfl, stripEnd_concat,
    splitAt_joinWith_flatMap hne, List.mem_flatMap]
  exact ⟨line, hl, by simp [splitAt_of_not_mem h]⟩

theorem linesOf_closed {ls : List (List Char)} (hne : ls ≠ []) (h : ∀ l ∈ ls, '\n' ∉ l) :
    linesOf (ListText.ofLines ls) = ls := by
  rw [ofLines_eq hne, linesOf, String.toList_ofList, Text.linesText, if_pos rfl, stripEnd_concat,
    splitAt_joinWith hne h]

theorem not_mem_of_mem_linesOf {contents : String} {line : List Char}
    (h : line ∈ linesOf contents) : '\n' ∉ line :=
  not_mem_of_mem_splitAt h

end HstsPreload.ListText
