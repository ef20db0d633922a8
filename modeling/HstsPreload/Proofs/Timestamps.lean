import HstsPreload.Time.Rfc3339
import Mathlib.Algebra.Group.Nat.Defs
import Mathlib.Tactic.Lemma

/-!
# Instants survive being written

An instant that is written with a year of four digits is read back as it was, to the nanosecond.
For that the calendar is turned around, and numbers with leading zeros are read for what they are.
-/

namespace HstsPreload

namespace Date

/-- Days from the first of March of year zero to the first of March of a year. -/
def yearStart (y : Int) : Int :=
  365 * y + y / 4 - y / 100 + y / 400

/-- The year of an era that a day of it belongs to, by a division that leap days do not disturb. -/
lemma yearStart_le (d : Int) (h0 : 0 ≤ d) (h1 : d < 146097) :
    let y := (d - d / 1460 + d / 36524 - d / 146096) / 365
    0 ≤ y ∧ y < 400 ∧ yearStart y ≤ d ∧ d < yearStart (y + 1) := by
  intro y
  have hy : y = (d - d / 1460 + d / 36524 - d / 146096) / 365 := rfl
  clear_value y
  have hcentury : d / 36524 = 0 ∨ d / 36524 = 1 ∨ d / 36524 = 2 ∨ d / 36524 = 3 ∨ d = 146096 := by
    omega
  have hfour : y - 4 * (d / 1460) = -1 ∨ y - 4 * (d / 1460) = 0 ∨ y - 4 * (d / 1460) = 1 ∨
      y - 4 * (d / 1460) = 2 ∨ y - 4 * (d / 1460) = 3 := by
    omega
  unfold yearStart
  refine ⟨by omega, by omega, ?_⟩
  rcases hcentury with h | h | h | h | h <;> rcases hfour with h' | h' | h' | h' | h' <;> omega

lemma exists_ofDays (n : Int) :
    ∃ year place month : Int, n + 719468 = yearStart year + place ∧ 0 ≤ place ∧
      place < yearStart (year + 1) - yearStart year ∧ month = (5 * place + 2) / 153 ∧
      ofDays n = ⟨if month < 10 then year else year + 1,
        (if month < 10 then month + 3 else month - 9).toNat,
        (place - (153 * month + 2) / 5 + 1).toNat⟩ := by
  have hera : (n + 719468).fdiv 146097 = (n + 719468) / 146097 :=
    Int.fdiv_eq_ediv_of_nonneg _ (by decide)
  obtain ⟨h0, h1, hle, hlt⟩ := yearStart_le ((n + 719468) % 146097)
    (Int.emod_nonneg _ (by decide)) (Int.emod_lt_of_pos _ (by decide))
  have hday : n + 719468 - (n + 719468) / 146097 * 146097 = (n + 719468) % 146097 := by omega
  unfold ofDays
  dsimp only at *
  rw [hera, hday]
  generalize (n + 719468) % 146097 = d at *
  generalize (n + 719468) / 146097 = era at *
  generalize (d - d / 1460 + d / 36524 - d / 146096) / 365 = y at *
  unfold yearStart at *
  refine ⟨y + 400 * era, d - (365 * y + y / 4 - y / 100), _, by omega, by omega, by omega, rfl, ?_⟩
  have hmonth : 0 ≤ (5 * (d - (365 * y + y / 4 - y / 100)) + 2) / 153 ∧
      (5 * (d - (365 * y + y / 4 - y / 100)) + 2) / 153 ≤ 11 := by
    omega
  generalize (5 * (d - (365 * y + y / 4 - y / 100)) + 2) / 153 = month at *
  rw [Int.mul_comm era 400]
  by_cases hten : month < 10
  · have hmarch : ¬month + 3 ≤ 2 := by omega
    rw [if_pos hten, if_pos hten, if_neg hmarch]
  · have hmarch : month - 9 ≤ 2 := by omega
    rw [if_neg hten, if_neg hten, if_pos hmarch]

lemma isLeap_iff (year : Int) :
    isLeap year = true ↔ year % 4 = 0 ∧ (year % 100 ≠ 0 ∨ year % 400 = 0) := by
  unfold isLeap
  simp only [Bool.and_eq_true, Bool.or_eq_true, beq_iff_eq, bne_iff_ne]

lemma isValid_ofDays (n : Int) : (ofDays n).isValid = true := by
  obtain ⟨year, place, month, -, h0, h1, hm, h⟩ := exists_ofDays n
  unfold yearStart at h1
  have hmonth : 0 ≤ month ∧ month ≤ 11 := by omega
  have hfeb := isLeap_iff (year + 1)
  rw [h]
  unfold isValid daysInMonth
  dsimp only
  rw [decide_eq_true_eq]
  by_cases hten : month < 10
  · rw [if_pos hten, if_pos hten]
    have hnot : ¬(month + 3).toNat = 2 := by omega
    rw [if_neg hnot]
    split <;> omega
  · rw [if_neg hten, if_neg hten]
    have hlast : month = 10 ∨ month = 11 := by omega
    rcases hlast with rfl | rfl
    · simp; omega
    · cases hl : isLeap (year + 1) <;> simp [hl] at hfeb ⊢ <;> omega

lemma toDays_ofDays (n : Int) : (ofDays n).toDays = n := by
  obtain ⟨year, place, month, hn, h0, h1, hm, h⟩ := exists_ofDays n
  unfold yearStart at hn h1
  have hmonth : 0 ≤ month ∧ month ≤ 11 := by omega
  rw [h]
  unfold toDays
  dsimp only
  rw [Int.fdiv_eq_ediv_of_nonneg _ (by decide), Int.fdiv_eq_ediv_of_nonneg _ (by decide),
    Int.fdiv_eq_ediv_of_nonneg _ (by decide)]
  by_cases hten : month < 10
  · have hmarch : ¬(month + 3).toNat ≤ 2 := by omega
    have hshift : (((month + 3).toNat : Int) + 9) % 12 = month := by omega
    rw [if_pos hten, if_pos hten, if_neg hmarch, hshift]
    omega
  · have hmarch : (month - 9).toNat ≤ 2 := by omega
    have hshift : (((month - 9).toNat : Int) + 9) % 12 = month := by omega
    rw [if_neg hten, if_neg hten, if_pos hmarch, hshift, Int.add_sub_cancel]
    omega

lemma bounds_of_isValid {d : Date} (h : d.isValid = true) :
    1 ≤ d.month ∧ d.month ≤ 12 ∧ 1 ≤ d.day ∧ d.day ≤ 31 := by
  unfold isValid daysInMonth at h
  rw [decide_eq_true_eq] at h
  obtain ⟨hm, hm', hd, hd'⟩ := h
  refine ⟨hm, hm', hd, Nat.le_trans hd' ?_⟩
  split
  · split <;> decide
  · split <;> decide

end Date

namespace Text

lemma decimalDigit?_of_isDigit {c : Char} (h : c.isDigit = true) :
    decimalDigit? c = some (c.toNat - '0'.toNat) := by
  have hc : '0' ≤ c ∧ c ≤ '9' := by
    rw [Char.isDigit_iff_toNat] at h
    rw [Char.le_def, Char.le_def, UInt32.le_iff_toNat_le, UInt32.le_iff_toNat_le]
    exact h
  unfold decimalDigit?
  rw [if_pos hc]

lemma foldl_decimalDigit? {ds : List Char} (h : ∀ c ∈ ds, c.isDigit = true) (start : Nat) :
    ds.foldl (fun n c => 10 * n + (decimalDigit? c).getD 0) start =
      Nat.ofDigitChars 10 ds start := by
  induction ds generalizing start with
  | nil => exact Nat.ofDigitChars_nil.symm
  | cons c ds ih =>
    rw [List.forall_mem_cons] at h
    rw [List.foldl_cons, Nat.ofDigitChars_cons, decimalDigit?_of_isDigit h.1, Option.getD_some]
    exact ih h.2 _

lemma isDigit_padZeros (width n : Nat) :
    ∀ c ∈ padZeros width (decimalText n), c.isDigit = true := by
  intro c hc
  unfold padZeros decimalText at hc
  rcases List.mem_append.mp hc with hz | hd
  · rw [List.eq_of_mem_replicate hz]
    rfl
  · exact Nat.isDigit_of_mem_toDigits (by decide) (by decide) hd

lemma decimalValue_padZeros (width n : Nat) :
    decimalValue (padZeros width (decimalText n)) = n := by
  unfold decimalValue
  rw [foldl_decimalDigit? (isDigit_padZeros width n)]
  unfold padZeros decimalText
  rw [Nat.ofDigitChars_append, Nat.ofDigitChars_replicate_zero, Nat.mul_zero,
    Nat.ofDigitChars_ten_toDigits]

lemma length_padZeros {width n : Nat} (hw : 0 < width) (h : n < 10 ^ width) :
    (padZeros width (decimalText n)).length = width := by
  have hle : (decimalText n).length ≤ width := (Nat.length_toDigits_le_iff (by decide) hw).mpr h
  unfold padZeros
  rw [List.length_append, List.length_replicate]
  omega

lemma length_le_utf8ByteSize (cs : List Char) : cs.length ≤ (String.ofList cs).utf8ByteSize := by
  induction cs with
  | nil => exact Nat.zero_le _
  | cons c cs ih =>
    have hpos := c.utf8Size_pos
    rw [String.ofList_cons, String.utf8ByteSize_append, String.utf8ByteSize_singleton,
      List.length_cons]
    omega

end Text

/-- An instant whose year is written in four digits and that falls into no leap second. -/
structure Instant.Ordinary (t : Instant) : Prop where
  year : 0 ≤ t.date.year ∧ t.date.year ≤ 9999
  nanos : t.nanos < Instant.perSecond

lemma Instant.secondOfDay_lt (t : Instant) :
    t.secondOfDay < 86400 ∧ t.dayNumber * secondsPerDay + t.secondOfDay = t.seconds := by
  have hfloor : t.dayNumber = t.seconds / 86400 := Int.fdiv_eq_ediv_of_nonneg _ (by decide)
  unfold secondOfDay secondsPerDay
  omega

namespace Rfc3339

open HstsPreload.Text

lemma digits_padZeros {width n : Nat} (hw : 0 < width) (h : n < 10 ^ width) (rest : List Char) :
    digits width (padZeros width (decimalText n) ++ rest) = .ok (n, rest) := by
  have hlength := length_padZeros hw h
  unfold digits
  dsimp only
  rw [List.take_left' hlength, List.drop_left' hlength, decimalValue_padZeros, if_pos]
  exact ⟨hlength, List.all_eq_true.mpr (isDigit_padZeros width n)⟩

lemma fraction_padZeros {n : Nat} (h : n < Instant.perSecond) {c : Char} (hc : c.isDigit = false)
    (rest : List Char) :
    fraction ('.' :: (padZeros 9 (decimalText n) ++ c :: rest)) = .ok (n, c :: rest) := by
  have hlength : (padZeros 9 (decimalText n)).length = 9 := length_padZeros (by decide) h
  have htake : (padZeros 9 (decimalText n) ++ c :: rest).takeWhile Char.isDigit =
      padZeros 9 (decimalText n) := by
    rw [List.takeWhile_append_of_pos (isDigit_padZeros 9 n),
      List.takeWhile_cons_of_neg (by simp [hc]), List.append_nil]
  have hdrop : (padZeros 9 (decimalText n) ++ c :: rest).dropWhile Char.isDigit = c :: rest := by
    rw [List.dropWhile_append_of_pos (isDigit_padZeros 9 n),
      List.dropWhile_cons_of_neg (by simp [hc])]
  rw [fraction, htake, hdrop]
  cases hp : padZeros 9 (decimalText n) with
  | nil => rw [hp] at hlength; cases hlength
  | cons d ds =>
    dsimp only
    rw [← hp, List.take_of_length_le (Nat.le_of_eq hlength), hlength, decimalValue_padZeros,
      Nat.sub_self]
    exact congrArg (fun m => Except.ok (m, c :: rest)) (Nat.mul_one n)

lemma separator_self (c : Char) (rest : List Char) : separator c (c :: rest) = .ok rest := by
  rw [separator, if_pos rfl]

lemma write_of_ordinary {t : Instant} (h : t.Ordinary) :
    write t = .ofList (padZeros 4 (decimalText t.date.year.natAbs)
      ++ '-' :: (padZeros 2 (decimalText t.date.month)
      ++ '-' :: (padZeros 2 (decimalText t.date.day)
      ++ 'T' :: (padZeros 2 (decimalText (t.secondOfDay / 3600))
      ++ ':' :: (padZeros 2 (decimalText (t.secondOfDay / 60 % 60))
      ++ ':' :: (padZeros 2 (decimalText (t.secondOfDay % 60))
      ++ '.' :: (padZeros 9 (decimalText t.nanos) ++ ['Z']))))))) := by
  obtain ⟨⟨hy0, hy1⟩, hn⟩ := h
  have hyear : Date.yearText t.date.year = padZeros 4 (decimalText t.date.year.natAbs) := by
    unfold Date.yearText
    dsimp only
    rw [if_neg (by omega), if_neg (by omega)]
  have hleap : ¬Instant.perSecond ≤ t.nanos := by omega
  unfold write
  dsimp only
  rw [if_neg hleap, if_neg hleap, hyear]
  simp only [List.append_assoc, List.cons_append]

theorem read_write {t : Instant} (h : t.Ordinary) : read (write t) = .ok t := by
  obtain ⟨hy0, hy1⟩ := h.year
  have hn := h.nanos
  have hvalid : t.date.isValid = true := Date.isValid_ofDays t.dayNumber
  obtain ⟨hm, hm', hd, hd'⟩ := Date.bounds_of_isValid hvalid
  obtain ⟨hlt, hsecond⟩ := t.secondOfDay_lt
  have hdate : (⟨(t.date.year.natAbs : Int), t.date.month, t.date.day⟩ : Date) = t.date := by
    rw [Int.natAbs_of_nonneg hy0]
  have hrange : ¬(23 < t.secondOfDay / 3600 ∨ 59 < t.secondOfDay / 60 % 60 ∨
      60 < t.secondOfDay % 60) := by
    omega
  have hsixty : ¬t.secondOfDay % 60 = 60 := by omega
  have hdays : t.date.toDays = t.dayNumber := Date.toDays_ofDays t.dayNumber
  have hclock : t.secondOfDay / 3600 * 3600 + t.secondOfDay / 60 % 60 * 60 + t.secondOfDay % 60 =
      t.secondOfDay := by
    omega
  have hsize : ¬(write t).utf8ByteSize < 19 := by
    have hyear : (padZeros 4 (decimalText t.date.year.natAbs)).length = 4 :=
      length_padZeros (by decide) (by omega)
    have hnanos : (padZeros 9 (decimalText t.nanos)).length = 9 := length_padZeros (by decide) hn
    rw [write_of_ordinary h, Nat.not_lt]
    refine Nat.le_trans ?_ (length_le_utf8ByteSize _)
    simp only [List.length_append, List.length_cons, hyear, hnanos]
    omega
  unfold read
  dsimp only
  rw [if_neg hsize, write_of_ordinary h, String.toList_ofList]
  -- field by field, each with the separator after it
  rw [digits_padZeros (by decide) (by omega)]
  dsimp only [bind, Except.bind, pure, Except.pure]
  rw [separator_self]
  dsimp only
  rw [digits_padZeros (by decide) (by omega)]
  dsimp only
  rw [separator_self]
  dsimp only
  rw [digits_padZeros (by decide) (by omega)]
  dsimp only
  rw [hdate, hvalid]
  simp only [Bool.not_true, Bool.false_eq_true, if_false, true_or, if_true]
  rw [digits_padZeros (by decide) (by omega)]
  dsimp only
  rw [separator_self]
  dsimp only
  rw [digits_padZeros (by decide) (by omega)]
  dsimp only
  rw [separator_self]
  dsimp only
  rw [digits_padZeros (by decide) (by omega)]
  dsimp only
  rw [fraction_padZeros hn rfl]
  dsimp only
  rw [if_neg hrange, if_neg hsixty]
  have hutc : offset ['Z'] = .ok (0, []) := rfl
  rw [hutc]
  dsimp only
  rw [if_neg (fun h => h rfl), if_neg (by decide), hdays, hclock, Int.zero_mul, Int.sub_zero,
    hsecond]

end Rfc3339

end HstsPreload
