import HstsPreload.Proofs.Tables
import HstsPreload.Unicode.Composed
import HstsPreload.Unicode.HostMapping

/-!
# Tables that agree

Mapping a name and composing it read five tables. They agree if no character is mapped to one that
would be mapped again, if the characters that mapping leaves as they are can be taken apart and
composed among themselves, and if a character comes apart in few steps. Whether tables agree is
computed on the bits of their code points.
-/

namespace HstsPreload.Unicode

open HstsPreload.Text

/-- The rows of the tables by which characters are mapped, taken apart and composed. -/
structure Sources where
  refused : List Row
  ignored : List Row
  mapped : List Row
  composed : List Row
  excluded : List Row

/-- The letters that Hangul syllables are made of. -/
def IsHangulLetter (n : Nat) : Prop :=
  (0x1100 ≤ n ∧ n < 0x1113) ∨ (0x1161 ≤ n ∧ n < 0x1176) ∨ (0x11a7 < n ∧ n < 0x11c3)

def IsSyllable (n : Nat) : Prop :=
  0xac00 ≤ n ∧ n < 0xac00 + 11172

def isScalar (n : Nat) : Bool :=
  (Char.ofNat n).toNat == n

namespace Sources

/-- Whether mapping does anything to a code point. -/
def Changes (s : Sources) (n : Nat) : Prop :=
  (∃ row ∈ s.refused, row.Holds n) ∨ (∃ row ∈ s.ignored, row.Holds n)
    ∨ ∃ row ∈ s.mapped, row.Holds n

structure Agree (s : Sources) : Prop where
  refused : ascending 0 s.refused = true
  ignored : ascending 0 s.ignored = true
  mapped : ascending 0 s.mapped = true
  composed : ascending 0 s.composed = true
  excluded : ascending 0 s.excluded = true
  ascii {n : Nat} : n < 128 → (s.Changes n ↔ 0x41 ≤ n ∧ n ≤ 0x5a)
  hangul {n : Nat} : IsHangulLetter n ∨ IsSyllable n → ¬s.Changes n
  target {row : Row} {n : Nat} {d : Char} :
    row ∈ s.mapped → row.Holds n → d ∈ row.targets n → ¬s.Changes d.toNat
  first {row : Row} : row ∈ s.composed → row.last = row.first ∧ isScalar row.first = true ∧
    128 ≤ row.first ∧ ¬IsHangulLetter row.first ∧ ¬IsSyllable row.first
  part {row : Row} {v : Nat} : row ∈ s.composed → v ∈ row.value →
    isScalar v = true ∧ v ≠ 0x2e ∧ ¬IsSyllable v
  keepsParts {row : Row} {v : Nat} : row ∈ s.composed → ¬s.Changes row.first → v ∈ row.value →
    ¬s.Changes v
  keepsPair {row : Row} {a b : Nat} : row ∈ s.composed → row.value = [a, b] → ¬s.Changes a →
    ¬s.Changes b → (∀ r ∈ s.excluded, ¬r.Holds row.first) → ¬s.Changes row.first
  depth : ∃ depth : Nat → Nat, (∀ n, depth n ≤ 3) ∧
    ∀ row ∈ s.composed, 0 < depth row.first ∧ ∀ v ∈ row.value, depth v < depth row.first

section Check

def numberBits (numbers : List Nat) : Nat :=
  union (numbers.map (1 <<< ·))

def targetBits (row : Row) : Nat :=
  match row.value with
  | [t] => Row.bits ⟨t, t + (row.last - row.first), row.step, []⟩
  | ts => numberBits ts

def syllableRow : Row :=
  ⟨0xac00, 0xd7a3, 1, []⟩

def hangulRows : List Row :=
  [⟨0x1100, 0x1112, 1, []⟩, ⟨0x1161, 0x1175, 1, []⟩, ⟨0x11a8, 0x11c2, 1, []⟩, syllableRow]

/-- Whether any of a few numbers is among the bits. -/
def meets (bits : Nat) (numbers : List Nat) : Bool :=
  bits &&& numberBits numbers != 0

variable (s : Sources)

def changed : Nat :=
  codes s.refused ||| codes s.ignored ||| codes s.mapped

/-- The composed characters that are made of any of the given code points. -/
def madeOf (bits : Nat) : Nat :=
  union (s.composed.map fun row => if meets bits row.value then row.bits else 0)

def checkOrder : Bool :=
  ascending 0 s.refused && ascending 0 s.ignored && ascending 0 s.mapped && ascending 0 s.composed
    && ascending 0 s.excluded

def checkMapping : Bool :=
  s.changed &&& union (s.mapped.map targetBits) == 0
    && s.changed &&& codes hangulRows == 0
    && s.changed % 2 ^ 128 == Row.bits ⟨0x41, 0x5a, 1, []⟩

def checkParts : Bool :=
  union (s.composed.map fun row => numberBits row.value) &&& (1 <<< 0x2e ||| syllableRow.bits) == 0
    && codes s.composed &&& (2 ^ 128 - 1 ||| codes hangulRows) == 0
    && s.madeOf (s.madeOf (s.madeOf (codes s.composed))) == 0

def checkRow (changed excluded : Nat) (row : Row) : Bool :=
  row.last == row.first && isScalar row.first && row.value.all isScalar
    && if meets changed [row.first] then
      meets changed row.value || meets excluded [row.first] || row.value.length != 2
    else !meets changed row.value

def check : Bool :=
  s.checkOrder && s.checkMapping && s.checkParts
    && s.composed.all (checkRow s.changed (codes s.excluded))

end Check

end Sources

open Sources

section Bits

variable {a b n : Nat}

lemma testBit_of_disjoint (h : a &&& b = 0) (hb : b.testBit n = true) : ¬a.testBit n = true := by
  have := congrArg (·.testBit n) h
  simpa [hb] using this

lemma testBit_numberBits {numbers : List Nat} :
    (numberBits numbers).testBit n = true ↔ n ∈ numbers := by
  simp only [numberBits, testBit_union, List.mem_map, exists_exists_and_eq_and,
    testBit_one_shiftLeft, exists_eq_right]

lemma meets_iff {numbers : List Nat} :
    meets n numbers = true ↔ ∃ m ∈ numbers, n.testBit m = true := by
  rw [meets, bne_iff_ne]
  constructor
  · intro h
    by_contra hnone
    push Not at hnone
    refine h (Nat.eq_of_testBit_eq fun m => ?_)
    rw [Nat.testBit_and, Nat.zero_testBit, Bool.and_eq_false_imp]
    intro hm
    by_contra hbit
    rw [Bool.not_eq_false, testBit_numberBits] at hbit
    exact hnone m hbit hm
  · rintro ⟨m, hm, hbit⟩ h
    exact testBit_of_disjoint h (testBit_numberBits.mpr hm) hbit

lemma testBit_syllableRow : syllableRow.bits.testBit n = true ↔ IsSyllable n := by
  rw [Row.testBit_bits (by decide) (by decide)]
  simp only [syllableRow, IsSyllable, Row.Holds, Nat.mod_one, and_true]
  omega

lemma testBit_hangulRows :
    (codes hangulRows).testBit n = true ↔ IsHangulLetter n ∨ IsSyllable n := by
  rw [testBit_codes (n := 0) (by decide)]
  simp only [hangulRows, syllableRow, List.mem_cons, List.not_mem_nil, or_false,
    exists_eq_or_imp, exists_eq_left, Row.Holds, Nat.mod_one, and_true, IsHangulLetter, IsSyllable]
  omega

end Bits

section Agreement

variable {s : Sources}

lemma testBit_changed (h : s.checkOrder = true) {n : Nat} :
    s.changed.testBit n = true ↔ s.Changes n := by
  simp only [checkOrder, Bool.and_eq_true, and_assoc] at h
  obtain ⟨hrefused, hignored, hmapped, -, -⟩ := h
  rw [changed, Nat.testBit_or, Nat.testBit_or, Bool.or_eq_true, Bool.or_eq_true, or_assoc,
    testBit_codes hrefused, testBit_codes hignored, testBit_codes hmapped]
  rfl

lemma targets_cases (row : Row) (n : Nat) :
    (∃ t, row.targets n = [.ofNat (t + (n - row.first))] ∧
      targetBits row = Row.bits ⟨t, t + (row.last - row.first), row.step, []⟩) ∨
    row.targets n = row.value.map .ofNat ∧ targetBits row = numberBits row.value := by
  unfold Row.targets targetBits
  rcases row.value with _ | ⟨t, _ | ⟨u, more⟩⟩
  · exact .inr ⟨rfl, rfl⟩
  · exact .inl ⟨t, rfl, rfl⟩
  · exact .inr ⟨rfl, rfl⟩

lemma testBit_targetBits {row : Row} {n : Nat} {d : Char} (hlast : row.first ≤ row.last)
    (hstep : row.step = 1 ∨ row.step = 2) (hn : row.Holds n) (hd : d ∈ row.targets n) :
    ∃ m, (targetBits row).testBit m = true ∧ d = .ofNat m := by
  obtain ⟨hfirst, hle, hmod⟩ := hn
  rcases targets_cases row n with ⟨t, htargets, hbits⟩ | ⟨htargets, hbits⟩
  · rw [htargets] at hd
    refine ⟨t + (n - row.first), ?_, List.mem_singleton.mp hd⟩
    have hmoved : t + (n - row.first) ≤ t + (row.last - row.first) := by omega
    rw [hbits]
    refine (Row.testBit_bits ?_ ?_).mpr ⟨Nat.le_add_right _ _, hmoved, ?_⟩
    · exact Nat.le_add_right _ _
    · exact hstep
    · rwa [Nat.add_sub_cancel_left]
  · rw [htargets] at hd
    obtain ⟨v, hv, rfl⟩ := List.mem_map.mp hd
    exact ⟨v, by rwa [hbits, testBit_numberBits], rfl⟩

lemma toNat_ofNat_cases (n : Nat) : (Char.ofNat n).toNat = n ∨ (Char.ofNat n).toNat = 0 := by
  unfold Char.ofNat
  by_cases h : n.isValidChar
  · rw [dif_pos h]
    exact .inl rfl
  · rw [dif_neg h]
    exact .inr rfl

lemma agree_ascii (horder : s.checkOrder = true) (h : s.checkMapping = true) {n : Nat}
    (hn : n < 128) : s.Changes n ↔ 0x41 ≤ n ∧ n ≤ 0x5a := by
  simp only [checkMapping, Bool.and_eq_true, beq_iff_eq] at h
  have hmod : (s.changed % 2 ^ 128).testBit n = s.changed.testBit n := by
    rw [Nat.testBit_mod_two_pow, decide_eq_true hn, Bool.true_and]
  rw [← testBit_changed horder, ← hmod, h.2, Row.testBit_bits (by decide) (by decide)]
  simp only [Row.Holds, Nat.mod_one, and_true]

lemma agree_target (horder : s.checkOrder = true) (h : s.checkMapping = true) {row : Row} {n : Nat}
    {d : Char} (hrow : row ∈ s.mapped) (hn : row.Holds n) (hd : d ∈ row.targets n) :
    ¬s.Changes d.toNat := by
  have hproper : row.first ≤ row.last ∧ (row.step = 1 ∨ row.step = 2) := by
    have horder := horder
    simp only [checkOrder, Bool.and_eq_true] at horder
    exact (ascending_row horder.1.1.2 hrow).2
  obtain ⟨m, hm, rfl⟩ := testBit_targetBits hproper.1 hproper.2 hn hd
  have hkept : ¬s.Changes m := by
    have h := h
    simp only [checkMapping, Bool.and_eq_true, beq_iff_eq] at h
    rw [← testBit_changed horder]
    exact testBit_of_disjoint h.1.1 (testBit_union.mpr ⟨_, List.mem_map_of_mem hrow, hm⟩)
  rcases toNat_ofNat_cases m with hnat | hnat
  · rwa [hnat]
  · rw [hnat, agree_ascii horder h (by decide)]
    omega

lemma agree_hangul (horder : s.checkOrder = true) (h : s.checkMapping = true) {n : Nat}
    (hn : IsHangulLetter n ∨ IsSyllable n) : ¬s.Changes n := by
  simp only [checkMapping, Bool.and_eq_true, beq_iff_eq] at h
  rw [← testBit_changed horder]
  exact testBit_of_disjoint h.1.2 (testBit_hangulRows.mpr hn)

lemma testBit_madeOf {bits n : Nat} {row : Row} (hrow : row ∈ s.composed)
    (hn : row.bits.testBit n = true) {v : Nat} (hv : v ∈ row.value)
    (hbit : bits.testBit v = true) : (s.madeOf bits).testBit n = true := by
  rw [madeOf, testBit_union]
  refine ⟨_, List.mem_map_of_mem hrow, ?_⟩
  rwa [if_pos (meets_iff.mpr ⟨v, hv, hbit⟩)]

/-- How many steps taking a code point apart needs: in how many of the sets, each made of the one
before, it lies. -/
lemma exists_depth (h : s.checkParts = true)
    (hfirst : ∀ row ∈ s.composed, row.bits.testBit row.first = true) :
    ∃ depth : Nat → Nat, (∀ n, depth n ≤ 3) ∧
      ∀ row ∈ s.composed, 0 < depth row.first ∧ ∀ v ∈ row.value, depth v < depth row.first := by
  simp only [checkParts, Bool.and_eq_true, beq_iff_eq] at h
  let one := codes s.composed
  let two := s.madeOf one
  let three := s.madeOf two
  have hnone : s.madeOf three = 0 := h.2
  refine ⟨fun n => (one.testBit n).toNat + (two.testBit n).toNat + (three.testBit n).toNat, ?_, ?_⟩
  · intro n
    have := Bool.toNat_le (one.testBit n)
    have := Bool.toNat_le (two.testBit n)
    have := Bool.toNat_le (three.testBit n)
    dsimp only
    omega
  · intro row hrow
    have hone : (one.testBit row.first).toNat = 1 := by
      have : one.testBit row.first = true :=
        testBit_union.mpr ⟨_, List.mem_map_of_mem hrow, hfirst row hrow⟩
      rw [this]
      rfl
    dsimp only
    refine ⟨by omega, ?_⟩
    intro v hv
    have hstep : ∀ bits : Nat,
        (bits.testBit v).toNat ≤ ((s.madeOf bits).testBit row.first).toNat := by
      intro bits
      cases hbit : bits.testBit v with
      | false => exact Nat.zero_le _
      | true => rw [testBit_madeOf hrow (hfirst row hrow) hv hbit]
    have htwo : (one.testBit v).toNat ≤ (two.testBit row.first).toNat := hstep one
    have hthree : (two.testBit v).toNat ≤ (three.testBit row.first).toNat := hstep two
    have hnone : (three.testBit v).toNat = 0 := by
      have := hstep three
      rwa [hnone, Nat.zero_testBit, Bool.toNat_false, Nat.le_zero] at this
    omega

lemma testBit_first (horder : s.checkOrder = true) {row : Row} (hrow : row ∈ s.composed) :
    row.bits.testBit row.first = true := by
  simp only [checkOrder, Bool.and_eq_true] at horder
  obtain ⟨-, hlast, hstep⟩ := ascending_row horder.1.2 hrow
  refine (Row.testBit_bits hlast hstep).mpr ⟨Nat.le_refl _, hlast, ?_⟩
  rw [Nat.sub_self, Nat.zero_mod]

lemma agree_first (horder : s.checkOrder = true) (h : s.checkParts = true) {row : Row}
    (hrow : row ∈ s.composed) :
    128 ≤ row.first ∧ ¬IsHangulLetter row.first ∧ ¬IsSyllable row.first := by
  simp only [checkParts, Bool.and_eq_true, beq_iff_eq] at h
  have hfirst : (codes s.composed).testBit row.first = true :=
    testBit_union.mpr ⟨_, List.mem_map_of_mem hrow, testBit_first horder hrow⟩
  have hout := testBit_of_disjoint (Nat.land_comm _ _ ▸ h.1.2) hfirst
  rw [Nat.testBit_or, Nat.testBit_two_pow_sub_one, Bool.or_eq_true, testBit_hangulRows,
    decide_eq_true_iff] at hout
  push Not at hout
  exact ⟨hout.1, hout.2⟩

lemma agree_part (h : s.checkParts = true) {row : Row} (hrow : row ∈ s.composed) {v : Nat}
    (hv : v ∈ row.value) : v ≠ 0x2e ∧ ¬IsSyllable v := by
  simp only [checkParts, Bool.and_eq_true, beq_iff_eq] at h
  have hpart : (union (s.composed.map fun row => numberBits row.value)).testBit v = true :=
    testBit_union.mpr ⟨_, List.mem_map_of_mem hrow, testBit_numberBits.mpr hv⟩
  have hout := testBit_of_disjoint (Nat.land_comm _ _ ▸ h.1.1) hpart
  rw [Nat.testBit_or, Bool.or_eq_true, testBit_one_shiftLeft, testBit_syllableRow] at hout
  push Not at hout
  exact ⟨hout.1.symm, hout.2⟩

lemma Sources.Agree.of_check (h : s.check = true) : s.Agree := by
  simp only [check, Bool.and_eq_true, List.all_eq_true] at h
  obtain ⟨⟨⟨horder, hmapping⟩, hparts⟩, hrows⟩ := h
  have hascending := horder
  simp only [checkOrder, Bool.and_eq_true, and_assoc] at hascending
  obtain ⟨hrefused, hignored, hmapped, hcomposed, hexcluded⟩ := hascending
  have hchecked : ∀ row ∈ s.composed,
      (row.last = row.first ∧ isScalar row.first = true ∧ ∀ v ∈ row.value, isScalar v = true) ∧
      (s.Changes row.first → (∃ v ∈ row.value, s.Changes v) ∨
        (∃ r ∈ s.excluded, r.Holds row.first) ∨ row.value.length ≠ 2) ∧
      (¬s.Changes row.first → ∀ v ∈ row.value, ¬s.Changes v) := by
    intro row hrow
    have hrow := hrows row hrow
    simp only [checkRow, Bool.and_eq_true, beq_iff_eq, List.all_eq_true, and_assoc] at hrow
    obtain ⟨hlast, hscalar, hscalars, hchanged⟩ := hrow
    refine ⟨⟨hlast, hscalar, hscalars⟩, ?_⟩
    simp only [← testBit_changed horder, ← testBit_codes hexcluded]
    split at hchanged
    · next hfirst =>
      refine ⟨fun _ => ?_, fun h => (h (by simpa [meets_iff] using hfirst)).elim⟩
      simpa [meets_iff, or_assoc] using hchanged
    · next hfirst =>
      refine ⟨fun h => (hfirst (by simpa [meets_iff] using h)).elim, fun _ => ?_⟩
      have hnone : ¬∃ v ∈ row.value, s.changed.testBit v = true := by
        rw [← meets_iff]
        simpa using hchanged
      simpa using hnone
  exact
    { refused := hrefused
      ignored := hignored
      mapped := hmapped
      composed := hcomposed
      excluded := hexcluded
      ascii := agree_ascii horder hmapping
      hangul := agree_hangul horder hmapping
      target := agree_target horder hmapping
      first := fun hrow =>
        ⟨(hchecked _ hrow).1.1, (hchecked _ hrow).1.2.1, agree_first horder hparts hrow⟩
      part := fun hrow hv => ⟨(hchecked _ hrow).1.2.2 _ hv, agree_part hparts hrow hv⟩
      keepsParts := fun hrow hfirst hv => (hchecked _ hrow).2.2 hfirst _ hv
      keepsPair := by
        intro row a b hrow hvalue ha hb hexcluded hfirst
        rcases (hchecked row hrow).2.1 hfirst with ⟨v, hv, hchanges⟩ | ⟨r, hr, hholds⟩ | hlength
        · rw [hvalue, List.mem_cons, List.mem_singleton] at hv
          rcases hv with rfl | rfl
          · exact ha hchanges
          · exact hb hchanges
        · exact hexcluded r hr hholds
        · exact hlength (by rw [hvalue]; rfl)
      depth := exists_depth hparts fun _ => testBit_first horder }

end Agreement

def sources : Sources where
  refused := refusedTable.rows.toList
  ignored := ignoredTable.rows.toList
  mapped := mappedTable.rows.toList
  composed := decompositionTable.rows.toList
  excluded := compositionExclusions.rows.toList

lemma sources_eq {refused ignored mapped composed excluded : List (List Char)}
    (hrefused : refusedTable.rows.toList = rowsOf refused)
    (hignored : ignoredTable.rows.toList = rowsOf ignored)
    (hmapped : mappedTable.rows.toList = rowsOf mapped)
    (hcomposed : decompositionTable.rows.toList = rowsOf composed)
    (hexcluded : compositionExclusions.rows.toList = rowsOf excluded) :
    sources = ⟨rowsOf refused, rowsOf ignored, rowsOf mapped, rowsOf composed, rowsOf excluded⟩ := by
  rw [sources, hrefused, hignored, hmapped, hcomposed, hexcluded]

-- The text of a table is a string, which the kernel takes apart slowly. So it is spelled out first,
-- by unifying each line with the string of its characters, and the check runs on the characters.
lemma exists_checked : ∃ texts : Sources, sources = texts ∧ texts.check = true := by
  apply Exists.intro
  apply And.intro
  · apply sources_eq
    any_goals apply Spelled.rows
    any_goals dsimp only
    any_goals repeat (first | exact .nil | apply Spelled.cons)
  · decide +kernel

theorem sources_agree : sources.Agree := by
  obtain ⟨texts, htexts, hcheck⟩ := exists_checked
  rw [htexts]
  exact .of_check hcheck

end HstsPreload.Unicode
