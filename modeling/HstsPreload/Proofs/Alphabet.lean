import HstsPreload.Proofs.Agreement
import HstsPreload.Proofs.Trimming
import Mathlib.Data.List.Basic

/-!
# Characters of mapped names

Mapping leaves as it is whatever it gives, and so it does with whatever such characters are taken
apart into or composed to. A character is taken apart completely, and a composed character comes
apart into what the two characters it is composed of come apart into.
-/

namespace HstsPreload.Unicode

open HstsPreload.Text

/-- Whether mapping leaves a character as it is. -/
def Kept (c : Char) : Prop :=
  hostMapping c = some [c]

/-- Whether a character cannot be taken apart. -/
def Plain (c : Char) : Prop :=
  partsOf c = none

section Tables

variable {n : Nat} {row : Row}

lemma changes_iff : sources.Changes n ↔ refusedTable.contains n = true ∨
    ignoredTable.contains n = true ∨ mappedTable.contains n = true := by
  have hrefused := sources_agree.refused
  have hignored := sources_agree.ignored
  have hmapped := sources_agree.mapped
  dsimp only [sources] at hrefused hignored hmapped
  rw [Table.contains_iff hrefused, Table.contains_iff hignored, Table.contains_iff hmapped]
  rfl

lemma mem_mapped (h : mappedTable.row? n = some row) : row ∈ sources.mapped ∧ row.Holds n := by
  dsimp only [sources]
  exact Table.holds_of_row? h

lemma mem_composed (h : decompositionTable.row? n = some row) :
    row ∈ sources.composed ∧ row.first = n := by
  have hrow : row ∈ sources.composed ∧ row.Holds n := by
    dsimp only [sources]
    exact Table.holds_of_row? h
  obtain ⟨hlast, -⟩ := sources_agree.first hrow.1
  obtain ⟨hfirst, hle, -⟩ := hrow.2
  exact ⟨hrow.1, by omega⟩

lemma row?_first (h : row ∈ sources.composed) : decompositionTable.row? row.first = some row := by
  have hcomposed := sources_agree.composed
  obtain ⟨hlast, -⟩ := sources_agree.first h
  dsimp only [sources] at hcomposed h
  refine Table.row?_of_holds hcomposed h ⟨Nat.le_refl _, by omega, ?_⟩
  rw [Nat.sub_self, Nat.zero_mod]

lemma not_excluded (h : compositionExclusions.contains n = false) :
    ∀ r ∈ sources.excluded, ¬r.Holds n := by
  have hexcluded := sources_agree.excluded
  intro r hr hn
  dsimp only [sources] at hexcluded hr
  have := (Table.contains_iff hexcluded).mpr ⟨r, hr, hn⟩
  rw [h] at this
  cases this

end Tables

section Mapping

variable {c d : Char}

lemma kept_iff : Kept c ↔ ¬sources.Changes c.toNat := by
  unfold Kept hostMapping
  split_ifs with hascii hrefused hignored
  · rw [sources_agree.ascii hascii, Option.some_inj, List.cons.injEq, and_iff_left rfl]
    rcases toLower_cases c with ⟨hsame, hlow⟩ | ⟨hcapital, hlower⟩
    · exact iff_of_true hsame hlow
    · refine iff_of_false ?_ (not_not_intro hcapital)
      intro h
      rw [h] at hlower
      omega
  · exact iff_of_false (by simp) (not_not_intro (changes_iff.mpr (.inl hrefused)))
  · exact iff_of_false (by simp) (not_not_intro (changes_iff.mpr (.inr (.inl hignored))))
  · split
    · next row hrow =>
      obtain ⟨hmapped, hn⟩ := mem_mapped hrow
      have hchanges : sources.Changes c.toNat :=
        changes_iff.mpr (.inr (.inr (by rw [Table.contains, hrow]; rfl)))
      refine iff_of_false ?_ (not_not_intro hchanges)
      intro h
      refine sources_agree.target hmapped hn ?_ hchanges
      rw [Option.some_inj.mp h]
      exact List.mem_singleton_self c
    · next hnone =>
      refine iff_of_true rfl ?_
      rw [changes_iff, Table.contains, Table.contains, Table.contains, hnone]
      rintro (h | h | h)
      · exact hrefused h
      · exact hignored h
      · cases h

theorem kept_of_mem_mapping {cs : List Char} (h : hostMapping c = some cs) (hd : d ∈ cs) :
    Kept d := by
  have hself := h
  unfold hostMapping at h
  split_ifs at h with hascii
  · cases h
    rw [List.mem_singleton.mp hd]
    rcases toLower_cases c with ⟨hsame, hlow⟩ | ⟨hcapital, hlower⟩
    · rwa [hsame, kept_iff, sources_agree.ascii hascii]
    · rw [kept_iff, sources_agree.ascii (by omega)]
      omega
  · cases h
    cases hd
  · split at h
    · next row hrow =>
      cases h
      obtain ⟨hmapped, hn⟩ := mem_mapped hrow
      exact kept_iff.mpr (sources_agree.target hmapped hn hd)
    · cases h
      rwa [List.mem_singleton.mp hd]

end Mapping

section Decomposition

variable {c d : Char} {n : Nat}

lemma toNat_of_isScalar (h : isScalar n = true) : (Char.ofNat n).toNat = n :=
  beq_iff_eq.mp h

lemma toNat_ofNat (h : n < 0xd800) : (Char.ofNat n).toNat = n := by
  unfold Char.ofNat
  rw [dif_pos (.inl h)]
  rfl

lemma letter_of_hangulParts {parts : List Char} (h : hangulParts n = some parts) (hd : d ∈ parts) :
    IsHangulLetter d.toNat := by
  unfold hangulParts at h
  unfold IsHangulLetter
  dsimp only at h
  split_ifs at h
  all_goals
    have heq := Option.some.inj h
    rw [← heq] at hd
    simp only [List.mem_cons, List.not_mem_nil, or_false] at hd
  · rcases hd with hd | hd
    all_goals
      rw [hd, toNat_ofNat (by omega)]
      omega
  · rcases hd with hd | hd | hd
    all_goals
      rw [hd, toNat_ofNat (by omega)]
      omega

lemma partsOf_cases {parts : List Char} (h : partsOf c = some parts) :
    hangulParts c.toNat = some parts ∨
    ∃ row ∈ sources.composed, row.first = c.toNat ∧ parts = row.value.map .ofNat := by
  unfold partsOf at h
  cases hparts : hangulParts c.toNat with
  | some _ =>
    rw [hparts] at h
    exact .inl h
  | none =>
    rw [hparts] at h
    obtain ⟨row, hrow, rfl⟩ := Option.map_eq_some_iff.mp h
    obtain ⟨hmem, hfirst⟩ := mem_composed hrow
    exact .inr ⟨row, hmem, hfirst, rfl⟩

lemma plain_of (hsyllable : ¬IsSyllable c.toNat) (h : ∀ row ∈ sources.composed, row.first ≠ c.toNat) :
    Plain c := by
  by_contra hc
  obtain ⟨parts, hparts⟩ := Option.ne_none_iff_exists'.mp hc
  rcases partsOf_cases hparts with hhangul | ⟨row, hrow, hfirst, -⟩
  · unfold hangulParts at hhangul
    unfold IsSyllable at hsyllable
    rw [if_neg hsyllable] at hhangul
    cases hhangul
  · exact h row hrow hfirst

lemma plain_letter (h : IsHangulLetter c.toNat) : Plain c := by
  refine plain_of ?_ ?_
  · unfold IsHangulLetter at h
    unfold IsSyllable
    omega
  · intro row hrow hfirst
    exact (sources_agree.first hrow).2.2.2.1 (hfirst ▸ h)

@[simp]
lemma Plain.decomposeChar (h : Plain c) : decomposeChar n c = [c] := by
  cases n with
  | zero => rfl
  | succ n => rw [Unicode.decomposeChar, h]

/-- Whatever holds of the parts of a character if it holds of the character holds of all that it is
taken apart into. -/
lemma decomposeChar_induction {P : Char → Prop}
    (hparts : ∀ c parts, partsOf c = some parts → P c → ∀ d ∈ parts, P d) (hc : P c)
    (hd : d ∈ decomposeChar n c) : P d := by
  induction n generalizing c with
  | zero => rwa [List.mem_singleton.mp hd]
  | succ n ih =>
    rw [decomposeChar] at hd
    split at hd
    · next parts heq =>
      obtain ⟨e, he, hd⟩ := List.mem_flatMap.mp hd
      exact ih (hparts c parts heq hc e he) hd
    · rwa [List.mem_singleton.mp hd]

lemma Kept.decomposeChar (hc : Kept c) (hd : d ∈ decomposeChar n c) : Kept d := by
  refine decomposeChar_induction ?_ hc hd
  intro c parts hparts hc d hd
  rw [kept_iff] at hc ⊢
  rcases partsOf_cases hparts with hhangul | ⟨row, hrow, hfirst, rfl⟩
  · exact sources_agree.hangul (.inl (letter_of_hangulParts hhangul hd))
  · obtain ⟨v, hv, rfl⟩ := List.mem_map.mp hd
    rw [toNat_of_isScalar (sources_agree.part hrow hv).1]
    exact sources_agree.keepsParts hrow (hfirst ▸ hc) hv

/-- Whether `n` steps take a character apart completely. -/
def Ends (n : Nat) (c : Char) : Prop :=
  (∀ d ∈ decomposeChar n c, Plain d) ∧ decomposeChar (n + 1) c = decomposeChar n c

lemma Plain.ends (h : Plain c) : Ends n c := by
  refine ⟨?_, by rw [h.decomposeChar, h.decomposeChar]⟩
  intro d hd
  rw [h.decomposeChar, List.mem_singleton] at hd
  rwa [hd]

lemma Ends.of_parts {parts : List Char} (hparts : partsOf c = some parts)
    (h : ∀ d ∈ parts, Ends n d) : Ends (n + 1) c := by
  have hstep : ∀ m, decomposeChar (m + 1) c = parts.flatMap (decomposeChar m) := by
    intro m
    rw [decomposeChar, hparts]
  constructor
  · intro d hd
    rw [hstep] at hd
    obtain ⟨e, he, hd⟩ := List.mem_flatMap.mp hd
    exact (h e he).1 d hd
  · rw [hstep, hstep]
    exact List.flatMap_congr fun e he => (h e he).2

lemma ends_of_depth {depth : Nat → Nat} (hdepth : ∀ row ∈ sources.composed,
    0 < depth row.first ∧ ∀ v ∈ row.value, depth v < depth row.first)
    (h : depth c.toNat ≤ n) : Ends (n + 1) c := by
  induction n generalizing c with
  | zero =>
    cases hparts : partsOf c with
    | none => exact Plain.ends hparts
    | some parts =>
      refine .of_parts hparts fun d hd => ?_
      rcases partsOf_cases hparts with hhangul | ⟨row, hrow, hfirst, -⟩
      · exact (plain_letter (letter_of_hangulParts hhangul hd)).ends
      · have := (hdepth row hrow).1
        rw [hfirst] at this
        omega
  | succ n ih =>
    cases hparts : partsOf c with
    | none => exact Plain.ends hparts
    | some parts =>
      refine .of_parts hparts fun d hd => ?_
      rcases partsOf_cases hparts with hhangul | ⟨row, hrow, hfirst, rfl⟩
      · exact (plain_letter (letter_of_hangulParts hhangul hd)).ends
      · obtain ⟨v, hv, rfl⟩ := List.mem_map.mp hd
        have := (hdepth row hrow).2 v hv
        apply ih
        rw [toNat_of_isScalar (sources_agree.part hrow hv).1]
        rw [hfirst] at this
        omega

lemma ends (c : Char) : Ends 4 c := by
  obtain ⟨depth, hle, hdepth⟩ := sources_agree.depth
  exact ends_of_depth hdepth (hle _)

lemma plain_of_mem_decomposeChar (hd : d ∈ decomposeChar 5 c) : Plain d := by
  rw [(ends c).2] at hd
  exact (ends c).1 d hd

lemma decomposeChar_of_parts {parts : List Char} (h : partsOf c = some parts) :
    decomposeChar 5 c = parts.flatMap (decomposeChar 5) := by
  rw [decomposeChar, h]
  exact List.flatMap_congr fun e _ => (ends e).2.symm

end Decomposition

section Composition

variable {a b j : Char} {x y : Nat}

lemma partsOf_syllable {s : Nat} (h : s < 11172) : partsOf (.ofNat (0xac00 + s)) = some
    (if s % 28 = 0 then [.ofNat (0x1100 + s / 588), .ofNat (0x1161 + s % 588 / 28)]
    else [.ofNat (0x1100 + s / 588), .ofNat (0x1161 + s % 588 / 28), .ofNat (0x11a7 + s % 28)]) := by
  have hparts : hangulParts (0xac00 + s) = some
    (if s % 28 = 0 then [.ofNat (0x1100 + s / 588), .ofNat (0x1161 + s % 588 / 28)]
    else [.ofNat (0x1100 + s / 588), .ofNat (0x1161 + s % 588 / 28), .ofNat (0x11a7 + s % 28)]) := by
    unfold hangulParts
    rw [if_pos (by omega)]
    dsimp only
    rw [Nat.add_sub_cancel_left]
    split_ifs <;> rfl
  rw [partsOf, toNat_ofNat (by omega), hparts]

lemma exists_composition {n : Nat}
    (h : (compositions.find? fun (x, y, _) => x == a.toNat && y == b.toNat) = some (x, y, n)) :
    ∃ row ∈ sources.composed, row.value = [a.toNat, b.toNat] ∧ row.first = n ∧
      compositionExclusions.contains n = false := by
  have hpair := Array.find?_some h
  have hmem := Array.mem_of_find?_eq_some h
  simp only [Bool.and_eq_true, beq_iff_eq] at hpair
  rw [compositions, Array.mem_filterMap] at hmem
  obtain ⟨row, hrow, hmade⟩ := hmem
  refine ⟨row, by dsimp only [sources]; exact Array.mem_toList_iff.mpr hrow, ?_⟩
  split at hmade
  · next x' y' hvalue =>
    split_ifs at hmade with hexcluded
    obtain ⟨rfl, rfl, rfl⟩ : x' = x ∧ y' = y ∧ row.first = n := by simpa using hmade
    rw [hvalue, hpair.1, hpair.2]
    exact ⟨rfl, rfl, Bool.eq_false_of_not_eq_true hexcluded⟩
  · cases hmade

lemma partsOf_row {row : Row} (h : row ∈ sources.composed) :
    partsOf (.ofNat row.first) = some (row.value.map .ofNat) := by
  obtain ⟨-, hscalar, -, -, hsyllable⟩ := sources_agree.first h
  have hnone : hangulParts row.first = none := by
    unfold hangulParts
    unfold IsSyllable at hsyllable
    rw [if_neg hsyllable]
  rw [partsOf, toNat_of_isScalar hscalar, hnone, row?_first h]
  rfl

/-- The ways two characters join: a lead and a vowel, a syllable without a tail and a tail, or as a
row has it that is not excluded. -/
lemma composePair_cases (h : composePair a b = some j) :
    ((IsHangulLetter a.toNat ∨ IsSyllable a.toNat) ∧ IsHangulLetter b.toNat ∧ IsSyllable j.toNat ∧
      (partsOf j = some [a, b] ∨
        ∃ parts, partsOf a = some parts ∧ partsOf j = some (parts ++ [b]))) ∨
    ∃ row ∈ sources.composed, row.value = [a.toNat, b.toNat] ∧ j = .ofNat row.first ∧
      compositionExclusions.contains row.first = false := by
  unfold composePair at h
  dsimp only at h
  split_ifs at h with hlead htail
  · left
    have hj := Option.some.inj h
    generalize hs : ((a.toNat - 0x1100) * 21 + (b.toNat - 0x1161)) * 28 = s at hj
    have hlt : s < 11172 := by omega
    refine ⟨.inl (.inl (by omega)), .inr (.inl (by omega)), ?_, .inl ?_⟩
    · rw [← hj, toNat_ofNat (by omega)]
      exact ⟨by omega, by omega⟩
    · have ha : 0x1100 + s / 588 = a.toNat := by omega
      have hb : 0x1161 + s % 588 / 28 = b.toNat := by omega
      rw [← hj, partsOf_syllable hlt, if_pos (by omega), ha, hb, Char.ofNat_toNat, Char.ofNat_toNat]
  · left
    have hj := Option.some.inj h
    obtain ⟨s, hs⟩ : ∃ s, a.toNat = 0xac00 + s := ⟨a.toNat - 0xac00, by omega⟩
    obtain ⟨t, ht⟩ : ∃ t, b.toNat = 0x11a7 + t := ⟨b.toNat - 0x11a7, by omega⟩
    have hcode : a.toNat + (b.toNat - 0x11a7) = 0xac00 + (s + t) := by omega
    have ha : partsOf a = some [.ofNat (0x1100 + s / 588), .ofNat (0x1161 + s % 588 / 28)] := by
      rw [← Char.ofNat_toNat a, hs, partsOf_syllable (by omega), if_pos (by omega)]
    refine ⟨.inr ⟨by omega, by omega⟩, .inr (.inr (by omega)), ?_, .inr ⟨_, ha, ?_⟩⟩
    · rw [← hj, hcode, toNat_ofNat (by omega)]
      exact ⟨by omega, by omega⟩
    · have hlead : (s + t) / 588 = s / 588 := by omega
      have hvowel : (s + t) % 588 / 28 = s % 588 / 28 := by omega
      have htail : 0x11a7 + (s + t) % 28 = b.toNat := by omega
      rw [← hj, hcode, partsOf_syllable (by omega), if_neg (by omega), hlead, hvowel, htail,
        Char.ofNat_toNat]
      rfl
  · right
    obtain ⟨⟨x, y, n⟩, hfind, rfl⟩ := Option.map_eq_some_iff.mp h
    obtain ⟨row, hrow, hvalue, rfl, hexcluded⟩ := exists_composition hfind
    exact ⟨row, hrow, hvalue, rfl, hexcluded⟩

/-- What two characters join to comes apart into what they come apart into. -/
theorem decomposeChar_composePair (h : composePair a b = some j) :
    decomposeChar 5 j = decomposeChar 5 a ++ decomposeChar 5 b := by
  have hpair (hj : partsOf j = some [a, b]) :
      decomposeChar 5 j = decomposeChar 5 a ++ decomposeChar 5 b := by
    rw [decomposeChar_of_parts hj, List.flatMap_cons, List.flatMap_cons, List.flatMap_nil,
      List.append_nil]
  rcases composePair_cases h with ⟨-, -, -, hj | ⟨parts, ha, hj⟩⟩ | ⟨row, hrow, hvalue, rfl, -⟩
  · exact hpair hj
  · rw [decomposeChar_of_parts hj, decomposeChar_of_parts ha, List.flatMap_append,
      List.flatMap_cons, List.flatMap_nil, List.append_nil]
  · apply hpair
    rw [partsOf_row hrow, hvalue, List.map_cons, List.map_cons, List.map_nil, Char.ofNat_toNat,
      Char.ofNat_toNat]

theorem Kept.composePair (ha : Kept a) (hb : Kept b) (h : composePair a b = some j) : Kept j := by
  rw [kept_iff] at ha hb ⊢
  rcases composePair_cases h with ⟨-, -, hj, -⟩ | ⟨row, hrow, hvalue, rfl, hexcluded⟩
  · exact sources_agree.hangul (.inr hj)
  · rw [toNat_of_isScalar (sources_agree.first hrow).2.1]
    exact sources_agree.keepsPair hrow hvalue ha hb (not_excluded hexcluded)

lemma ne_stop_of_composePair (h : composePair a b = some j) : a ≠ '.' ∧ b ≠ '.' ∧ j ≠ '.' := by
  have hstop : ∀ c : Char, c.toNat ≠ 0x2e → c ≠ '.' := by
    rintro c hc rfl
    exact hc rfl
  rcases composePair_cases h with ⟨ha, hb, hj, -⟩ | ⟨row, hrow, hvalue, rfl, -⟩
  · unfold IsHangulLetter IsSyllable at *
    exact ⟨hstop a (by omega), hstop b (by omega), hstop j (by omega)⟩
  · obtain ⟨-, hscalar, hlow, -⟩ := sources_agree.first hrow
    have hpart : ∀ v ∈ row.value, v ≠ 0x2e := fun v hv => (sources_agree.part hrow hv).2.1
    rw [hvalue] at hpart
    refine ⟨hstop a (hpart _ (by simp)), hstop b (hpart _ (by simp)), hstop _ ?_⟩
    rw [toNat_of_isScalar hscalar]
    omega

end Composition

end HstsPreload.Unicode
