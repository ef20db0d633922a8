import HstsPreload.Unicode.Table
import Mathlib.Data.Nat.Bitwise
import Mathlib.Tactic.Lemma
import Mathlib.Tactic.SplitIfs

/-!
# Tables of code points

A search finds a row that holds the code point, and in an ascending table it finds the one row that
does. The code points of a table make up the bits of one number, in which a computation can look up
what the table holds; for such computations a table is spelled out character by character.
-/

namespace HstsPreload.Unicode

open HstsPreload.Text

def Row.Holds (row : Row) (c : Nat) : Prop :=
  row.first ≤ c ∧ c ≤ row.last ∧ (c - row.first) % row.step = 0

/-- Whether rows lie behind one another from `n` on. -/
def ascending : Nat → List Row → Bool
  | _, [] => true
  | n, row :: rest =>
    n ≤ row.first && row.first ≤ row.last && (row.step == 1 || row.step == 2)
      && ascending (row.last + 1) rest

section Search

variable {n : Nat} {rows : List Row}

lemma ascending_cons {row : Row} (h : ascending n (row :: rows) = true) :
    (n ≤ row.first ∧ row.first ≤ row.last ∧ (row.step = 1 ∨ row.step = 2))
      ∧ ascending (row.last + 1) rows = true := by
  simpa [ascending, and_assoc] using h

lemma ascending_row (h : ascending n rows = true) {row : Row} (hrow : row ∈ rows) :
    n ≤ row.first ∧ row.first ≤ row.last ∧ (row.step = 1 ∨ row.step = 2) := by
  induction rows generalizing n with
  | nil => cases hrow
  | cons r rows ih =>
    obtain ⟨hr, hrows⟩ := ascending_cons h
    rcases List.mem_cons.mp hrow with rfl | hrow
    · exact hr
    · have := ih hrows hrow
      omega

lemma pairwise_of_ascending (h : ascending n rows = true) :
    rows.Pairwise fun r s => r.last < s.first := by
  induction rows generalizing n with
  | nil => exact .nil
  | cons r rows ih =>
    obtain ⟨-, hrows⟩ := ascending_cons h
    refine .cons ?_ (ih hrows)
    intro s hs
    have := ascending_row hrows hs
    omega

lemma holds_of_search {rows : Array Row} {c fuel lo hi : Nat} {row : Row}
    (h : Table.search rows c fuel lo hi = some row) : row ∈ rows ∧ row.Holds c := by
  induction fuel generalizing lo hi with
  | zero => cases h
  | succ fuel ih =>
    rw [Table.search] at h
    split_ifs at h
    dsimp only at h
    split at h
    · cases h
    · next r hr =>
      split_ifs at h with hfirst hlast hstep
      · exact ih h
      · exact ih h
      · cases h
        exact ⟨Array.mem_of_getElem? hr, by omega, by omega, hstep⟩

lemma search_of_holds {rows : Array Row} (hrows : ascending n rows.toList = true) {c i : Nat}
    {row : Row} (hrow : rows[i]? = some row) (hc : row.Holds c) {fuel lo hi : Nat} (hlo : lo ≤ i)
    (hhi : i < hi) (hsize : hi ≤ rows.size) (hfuel : hi - lo ≤ fuel) :
    Table.search rows c fuel lo hi = some row := by
  have hpairwise := List.pairwise_iff_getElem.mp (pairwise_of_ascending hrows)
  obtain ⟨hi_lt, rfl⟩ := Array.getElem?_eq_some_iff.mp hrow
  obtain ⟨hfirst, hlast, hstep⟩ := hc
  induction fuel generalizing lo hi with
  | zero => omega
  | succ fuel ih =>
    have hmid : (lo + hi) / 2 < rows.size := by omega
    have hproper := ascending_row hrows (Array.getElem_mem_toList hmid)
    rw [Table.search, if_pos (by omega)]
    dsimp only
    rw [Array.getElem?_eq_getElem hmid]
    dsimp only
    rcases Nat.lt_trichotomy i ((lo + hi) / 2) with hlt | heq | hgt
    · have := hpairwise i ((lo + hi) / 2) hi_lt hmid hlt
      simp only [Array.getElem_toList] at this
      rw [if_pos (by omega)]
      exact ih hlo hlt (by omega) (by omega)
    · simp only [← heq]
      rw [if_neg (by omega), if_neg (by omega), if_pos hstep]
    · have := hpairwise ((lo + hi) / 2) i hmid hi_lt hgt
      simp only [Array.getElem_toList] at this
      rw [if_neg (by omega), if_pos (by omega)]
      exact ih hgt hhi hsize (by omega)

variable {t : Table} {c : Nat} {row : Row}

lemma Table.holds_of_row? (h : t.row? c = some row) : row ∈ t.rows.toList ∧ row.Holds c := by
  obtain ⟨hrow, hc⟩ := holds_of_search h
  exact ⟨Array.mem_toList_iff.mpr hrow, hc⟩

lemma Table.row?_of_holds (ht : ascending n t.rows.toList = true) (hrow : row ∈ t.rows.toList)
    (hc : row.Holds c) : t.row? c = some row := by
  obtain ⟨i, hi, h⟩ := List.getElem_of_mem hrow
  have hrow : t.rows[i]? = some row := by
    rw [Array.getElem?_eq_some_iff]
    exact ⟨hi, h⟩
  exact search_of_holds ht hrow hc (Nat.zero_le i) hi (Nat.le_refl _) (by omega)

lemma Table.contains_iff (ht : ascending n t.rows.toList = true) :
    t.contains c = true ↔ ∃ row ∈ t.rows.toList, row.Holds c := by
  rw [Table.contains, Option.isSome_iff_exists]
  constructor
  · rintro ⟨row, hrow⟩
    exact ⟨row, holds_of_row? hrow⟩
  · rintro ⟨row, hrow, hc⟩
    exact ⟨row, row?_of_holds ht hrow hc⟩

lemma Table.contains_of_lt (ht : ascending n t.rows.toList = true) (hc : c < n) :
    t.contains c = false := by
  by_contra h
  obtain ⟨row, hrow, hfirst, -⟩ := (contains_iff ht).mp (Bool.eq_true_of_not_eq_false h)
  have hlow := (ascending_row ht hrow).1
  omega

end Search

section Bits

/-- The bits of many numbers; taken from the left, as few of them as the numbers so far have. -/
def union (numbers : List Nat) : Nat :=
  numbers.foldl (· ||| ·) 0

def Row.bits (row : Row) : Nat :=
  if row.step = 1 then (2 ^ (row.last + 1 - row.first) - 1) <<< row.first
  else union ((List.range ((row.last - row.first) / row.step + 1)).map fun k =>
    1 <<< (row.first + row.step * k))

def codes (rows : List Row) : Nat :=
  union (rows.map Row.bits)

variable {n c : Nat} {rows : List Row}

lemma testBit_union {numbers : List Nat} :
    (union numbers).testBit c = true ↔ ∃ m ∈ numbers, m.testBit c = true := by
  have h : ∀ bits, (numbers.foldl (· ||| ·) bits).testBit c = true ↔
      bits.testBit c = true ∨ ∃ m ∈ numbers, m.testBit c = true := by
    induction numbers with
    | nil => simp
    | cons m numbers ih => simp [ih, or_assoc]
  simpa [union] using h 0

lemma testBit_one_shiftLeft {i : Nat} : (1 <<< i).testBit c = true ↔ i = c := by
  rw [Nat.one_shiftLeft, Nat.testBit_two_pow, decide_eq_true_iff]

lemma Row.testBit_bits {row : Row} (hlast : row.first ≤ row.last)
    (hstep : row.step = 1 ∨ row.step = 2) : row.bits.testBit c = true ↔ row.Holds c := by
  unfold Row.bits Row.Holds
  rcases hstep with hstep | hstep
  · rw [if_pos hstep, Nat.testBit_shiftLeft, Nat.testBit_two_pow_sub_one, hstep]
    simp only [ge_iff_le, Bool.and_eq_true, decide_eq_true_eq]
    omega
  · rw [if_neg (by omega), testBit_union, hstep]
    simp only [List.mem_map, List.mem_range, exists_exists_and_eq_and, testBit_one_shiftLeft]
    constructor
    · rintro ⟨k, hk, rfl⟩
      omega
    · rintro ⟨hfirst, hlast, hstep⟩
      exact ⟨(c - row.first) / 2, by omega, by omega⟩

/-- In an ascending table the bits of a code point tell whether a row holds it. -/
lemma testBit_codes (h : ascending n rows = true) :
    (codes rows).testBit c = true ↔ ∃ row ∈ rows, row.Holds c := by
  simp only [codes, testBit_union, List.mem_map, exists_exists_and_eq_and]
  constructor
  all_goals
    rintro ⟨row, hrow, hc⟩
    obtain ⟨-, hlast, hstep⟩ := ascending_row h hrow
  · exact ⟨row, hrow, (Row.testBit_bits hlast hstep).mp hc⟩
  · exact ⟨row, hrow, (Row.testBit_bits hlast hstep).mpr hc⟩

end Bits

section Spelling

/-- The lines of a table, character by character. -/
inductive Spelled : List String → List (List Char) → Prop
  | nil : Spelled [] []
  | cons {lines : List String} {texts : List (List Char)} (text : List Char) :
      Spelled lines texts → Spelled (.ofList text :: lines) (text :: texts)

/-- The rows of lines that are spelled out. -/
def rowsOf (texts : List (List Char)) : List Row :=
  texts.flatMap fun text => (splitAt ' ' text).map Row.ofText

lemma Spelled.toList {lines : List String} {texts : List (List Char)} (h : Spelled lines texts) :
    lines.map String.toList = texts := by
  induction h with
  | nil => rfl
  | cons text _ ih => rw [List.map_cons, String.toList_ofList, ih]

lemma Spelled.rows {lines : List String} {texts : List (List Char)} (h : Spelled lines texts) :
    (Table.ofLines lines).rows.toList = rowsOf texts := by
  rw [← h.toList, rowsOf, List.flatMap_map]
  rfl

lemma Spelled.ascending {lines : List String} {texts : List (List Char)} {n : Nat}
    (h : Spelled lines texts) (hrows : ascending n (rowsOf texts) = true) :
    Unicode.ascending n (Table.ofLines lines).rows.toList = true := by
  rwa [h.rows]

end Spelling

end HstsPreload.Unicode
