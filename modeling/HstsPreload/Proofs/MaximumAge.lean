import HstsPreload.Proofs.Directives
import HstsPreload.Proofs.Timestamps
import HstsPreload.Proofs.Trimming

/-!
# Which values are read as an age

An age is a number in decimal digits, and may stand between quotation marks. What is read besides is
a number behind a plus sign, and a number with any quotation marks before and behind it.
-/

namespace HstsPreload

namespace Text

/-- Whether decimal digits spell a number that stays within a limit. -/
structure IsNumeral (limit : Nat) (digits : List Char) (n : Nat) : Prop where
  nonempty : digits ≠ []
  isDigit : ∀ c ∈ digits, c.isDigit = true
  value : decimalValue digits = n
  le_limit : n ≤ limit

lemma decimalDigit?_of_not_isDigit {c : Char} (h : c.isDigit = false) : decimalDigit? c = none := by
  refine if_neg fun hrange => ?_
  have hdigit : c.isDigit = true := by
    rw [Char.isDigit, Bool.and_eq_true, decide_eq_true_eq, decide_eq_true_eq]
    exact hrange
  rw [h] at hdigit
  cases hdigit

lemma le_foldl_decimalDigit? (cs : List Char) (start : Nat) :
    start ≤ cs.foldl (fun n c => 10 * n + (decimalDigit? c).getD 0) start := by
  induction cs generalizing start with
  | nil => exact Nat.le_refl start
  | cons c cs ih =>
    rw [List.foldl_cons]
    exact Nat.le_trans (by omega) (ih _)

/-- Reading digits checks the limit at every digit, which comes to checking it once at the end. -/
lemma readDigits_eq_ok {limit start n : Nat} {overflow : NumberFault} (h : start ≤ limit)
    (cs : List Char) : readDigits limit overflow start cs = .ok n ↔
      (∀ c ∈ cs, c.isDigit = true) ∧
        cs.foldl (fun n c => 10 * n + (decimalDigit? c).getD 0) start = n ∧ n ≤ limit := by
  induction cs generalizing start with
  | nil =>
    simp only [readDigits, List.foldl_nil, List.not_mem_nil, Except.ok.injEq]
    exact ⟨fun hn => ⟨fun _ hc => hc.elim, hn, hn ▸ h⟩, fun hn => hn.2.1⟩
  | cons c cs ih =>
    rw [readDigits, List.foldl_cons, List.forall_mem_cons]
    cases hdigit : c.isDigit with
    | false =>
      rw [decimalDigit?_of_not_isDigit hdigit]
      simp
    | true =>
      rw [decimalDigit?_of_isDigit hdigit, Option.getD_some]
      generalize c.toNat - '0'.toNat = d
      dsimp only
      split_ifs with hlimit
      · -- the number is past the limit, and the rest of the digits keeps it there
        have hle := le_foldl_decimalDigit? cs (10 * start + d)
        simp only [false_iff, not_and, Nat.not_le]
        omega
      · rw [ih (Nat.le_of_not_lt hlimit)]
        simp

theorem readNat_eq_ok {limit n : Nat} {cs : List Char} : readNat limit cs = .ok n ↔
    ∃ sign digits, cs = sign ++ digits ∧ (sign = [] ∨ sign = ['+']) ∧
      IsNumeral limit digits n := by
  constructor
  · intro h
    unfold readNat at h
    split at h
    · cases h
    · cases h
    · next rest hne =>
      obtain ⟨hdigits, hvalue, hle⟩ := (readDigits_eq_ok (Nat.zero_le limit) _).mp h
      exact ⟨['+'], rest, rfl, .inr rfl, ⟨fun hnil => hne (by rw [hnil]), hdigits, hvalue, hle⟩⟩
    · next hne _ _ =>
      obtain ⟨hdigits, hvalue, hle⟩ := (readDigits_eq_ok (Nat.zero_le limit) _).mp h
      exact ⟨[], cs, rfl, .inl rfl, ⟨hne, hdigits, hvalue, hle⟩⟩
  · rintro ⟨sign, digits, rfl, hsign, hne, hdigits, hvalue, hle⟩
    have hread : readDigits limit .tooLarge 0 digits = .ok n :=
      (readDigits_eq_ok (Nat.zero_le limit) _).mpr ⟨hdigits, hvalue, hle⟩
    obtain ⟨c, digits, rfl⟩ := List.exists_cons_of_ne_nil hne
    have hplus : c ≠ '+' := fun hc => absurd (hdigits c (by simp)) (by rw [hc]; decide)
    rcases hsign with rfl | rfl
    · rw [List.nil_append, readNat]
      · exact hread
      all_goals simp [hplus]
    · rw [List.singleton_append, readNat]
      · exact hread
      · simp

end Text

namespace Header

open Text

/-- The value of a directive, empty if it has none. -/
def Directive.text (d : Directive) : List Char :=
  (d.value.getD "").toList

/-- Whether a value is a number of seconds, bare or between two quotation marks. -/
def IsAge (value : List Char) (n : Nat) : Prop :=
  ∃ digits, (value = digits ∨ value = '"' :: (digits ++ ['"'])) ∧ IsNumeral largestAge digits n

/-- Whether a value is a number of seconds but for a plus sign and for quotation marks at the
ends. -/
def ReadsAsAge (value : List Char) (n : Nat) : Prop :=
  ∃ opening sign digits closing, value = opening ++ (sign ++ digits) ++ closing ∧
    (∀ c ∈ opening, c = '"') ∧ (∀ c ∈ closing, c = '"') ∧ (sign = [] ∨ sign = ['+']) ∧
    IsNumeral largestAge digits n

/-- Whether a value has no plus sign, and no quotation marks but a pair around it. -/
def IsPlain (value : List Char) : Prop :=
  '+' ∉ value ∧ ('"' ∉ value ∨ ∃ inner, '"' ∉ inner ∧ value = '"' :: (inner ++ ['"']))

/-- A text without the quotation marks at its ends. -/
def stripQuotes (cs : List Char) : List Char :=
  dropEndWhile (· = '"') (cs.dropWhile (· = '"'))

lemma stripQuotes_append {opening core closing : List Char} (ho : ∀ c ∈ opening, c = '"')
    (hc : ∀ c ∈ closing, c = '"') (hcore : '"' ∉ core) :
    stripQuotes (opening ++ core ++ closing) = core := by
  have hkeep : ∀ c ∈ core, decide (c = '"') = false :=
    fun c hmem => decide_eq_false fun heq => hcore (heq ▸ hmem)
  have hstart : core.dropWhile (· = '"') = core :=
    dropWhile_eq_self fun c hhead => hkeep c (List.mem_of_mem_head? hhead)
  have hend : dropEndWhile (· = '"') core = core :=
    dropEndWhile_eq_self fun c hlast => hkeep c (List.mem_of_getLast? hlast)
  rw [stripQuotes, List.append_assoc,
    List.dropWhile_append_of_pos fun c hmem => decide_eq_true (ho c hmem), List.dropWhile_append,
    hstart]
  split_ifs with hempty
  · have hnil : closing.dropWhile (· = '"') = [] :=
      List.dropWhile_eq_nil_iff.mpr fun c hmem => decide_eq_true (hc c hmem)
    rw [hnil, List.isEmpty_iff.mp hempty]
    rfl
  · rw [dropEndWhile_append fun c hmem => decide_eq_true (hc c hmem), hend]

lemma exists_stripQuotes (cs : List Char) :
    ∃ opening closing, cs = opening ++ stripQuotes cs ++ closing ∧
      (∀ c ∈ opening, c = '"') ∧ ∀ c ∈ closing, c = '"' := by
  obtain ⟨closing, hend, hclosing⟩ :=
    exists_dropEndWhile_append (· = '"') (cs.dropWhile (· = '"'))
  refine ⟨cs.takeWhile (· = '"'), closing, ?_, fun c hc => ?_, fun c hc => ?_⟩
  · rw [List.append_assoc, stripQuotes, hend, List.takeWhile_append_dropWhile]
  · simpa using List.mem_takeWhile_imp hc
  · simpa using hclosing c hc

lemma quote_notMem_numeral {sign digits : List Char} {n : Nat} (hs : sign = [] ∨ sign = ['+'])
    (h : IsNumeral largestAge digits n) : '"' ∉ sign ++ digits := by
  intro hmem
  rcases List.mem_append.mp hmem with hsign | hdigit
  · rcases hs with rfl | rfl
    · cases hsign
    · exact absurd hsign (by decide)
  · exact absurd (h.isDigit _ hdigit) (by decide)

lemma age_eq_ok {d : Directive} {n : Nat} : d.age = .ok n ↔ ReadsAsAge d.text n := by
  have hage : d.age = readNat largestAge (stripQuotes d.text) := by
    rw [Directive.age, unquoted, String.toList_ofList]
    rfl
  rw [hage, readNat_eq_ok]
  constructor
  · rintro ⟨sign, digits, hstrip, hsign, hnumeral⟩
    obtain ⟨opening, closing, htext, ho, hc⟩ := exists_stripQuotes d.text
    rw [hstrip] at htext
    exact ⟨opening, sign, digits, closing, htext, ho, hc, hsign, hnumeral⟩
  · rintro ⟨opening, sign, digits, closing, htext, ho, hc, hsign, hnumeral⟩
    refine ⟨sign, digits, ?_, hsign, hnumeral⟩
    rw [htext, stripQuotes_append ho hc (quote_notMem_numeral hsign hnumeral)]

lemma isAge_iff {value : List Char} {n : Nat} :
    IsAge value n ↔ ReadsAsAge value n ∧ IsPlain value := by
  constructor
  · rintro ⟨digits, hvalue, hnumeral⟩
    have hquote : '"' ∉ digits := quote_notMem_numeral (.inl rfl) hnumeral
    have hplus : '+' ∉ digits := fun hmem => absurd (hnumeral.isDigit _ hmem) (by decide)
    rcases hvalue with rfl | rfl
    · exact ⟨⟨[], [], _, [], by simp, by simp, by simp, .inl rfl, hnumeral⟩, hplus, .inl hquote⟩
    · exact ⟨⟨['"'], [], digits, ['"'], by simp, by simp, by simp, .inl rfl, hnumeral⟩,
        by simp [hplus], .inr ⟨digits, hquote, rfl⟩⟩
  · rintro ⟨⟨opening, sign, digits, closing, hvalue, ho, hc, hsign, hnumeral⟩, hplus, hquotes⟩
    have hstrip : stripQuotes value = sign ++ digits := by
      rw [hvalue, stripQuotes_append ho hc (quote_notMem_numeral hsign hnumeral)]
    obtain rfl : sign = [] := by
      refine hsign.resolve_right fun heq => hplus ?_
      simp [hvalue, heq]
    rw [List.nil_append] at hstrip
    refine ⟨digits, ?_, hnumeral⟩
    rcases hquotes with hnone | ⟨inner, hinner, hpair⟩
    · have hself : stripQuotes ([] ++ value ++ []) = value :=
        stripQuotes_append (by simp) (by simp) hnone
      rw [List.nil_append, List.append_nil] at hself
      exact .inl (hself.symm.trans hstrip)
    · have hinside : stripQuotes (['"'] ++ inner ++ ['"']) = inner :=
        stripQuotes_append (by simp) (by simp) hinner
      rw [hpair, ← List.singleton_append, ← List.append_assoc, hinside] at hstrip
      exact .inr (hstrip ▸ hpair)

/-- The age of a header is that of its first directive for it, and is read exactly if the value of
that directive is a number of seconds below 2⁶⁴, but for a plus sign and for quotation marks at its
ends. So every age that is written as it should be is read, and it is the only kind that is read if
the value is plain. A value that is not read is one error, and nothing else is. -/
theorem maxAge_iff_readsAsAge (raw : String) :
    (∀ n, (parse raw).1.maxAge = some n ↔
      ∃ d, first? "max-age" (directives raw) = some d ∧ ReadsAsAge d.text n) ∧
    (∀ d, first? "max-age" (directives raw) = some d →
      (∀ n, IsAge d.text n → (parse raw).1.maxAge = some n) ∧
      (IsPlain d.text → ∀ n, (parse raw).1.maxAge = some n ↔ IsAge d.text n)) ∧
    (parse raw).2.errors =
      (match first? "max-age" (directives raw), (parse raw).1.maxAge with
        | some d, none => [invalidMaxAge (unquoted (d.value.getD ""))]
        | _, _ => []) := by
  have hage : (parse raw).1.maxAge =
      (first? "max-age" (directives raw)).bind fun d => d.age.toOption := by
    rw [parse, ← taken, taken_fst, ofFirsts]
  have herrors : (parse raw).2.errors =
      (first? "max-age" (directives raw)).elim [] Directive.ageIssues := by
    rw [parse, ← taken, errors_taken, issuesOfFirsts]
  have hread : ∀ d : Directive, ∀ n, d.age.toOption = some n ↔ ReadsAsAge d.text n := by
    intro d n
    rw [← age_eq_ok]
    cases d.age <;> simp [Except.toOption]
  refine ⟨fun n => ?_, fun d hd => ?_, ?_⟩
  · rw [hage, Option.bind_eq_some_iff]
    simp only [hread]
  · have hfirst : ∀ n, (parse raw).1.maxAge = some n ↔ ReadsAsAge d.text n := by
      intro n
      rw [hage, hd, Option.bind_some, hread]
    refine ⟨fun n h => (hfirst n).mpr (isAge_iff.mp h).1, fun hplain n => ?_⟩
    rw [hfirst, isAge_iff]
    exact ⟨fun h => ⟨h, hplain⟩, And.left⟩
  · rw [herrors, hage]
    cases first? "max-age" (directives raw) with
    | none => rfl
    | some d =>
      rw [Option.elim_some, Option.bind_some, Directive.ageIssues]
      cases d.age <;> rfl

/-- A pair of quotation marks may stand around an age. A plus sign should not stand before it, but
is read. -/
theorem quoted_and_signed_age :
    IsAge "\"5\"".toList 5 ∧ (parse "max-age=\"5\"").1.maxAge = some 5 ∧
      ¬IsAge "+5".toList 5 ∧ (parse "max-age=+5").1.maxAge = some 5 := by
  have hfive : IsNumeral largestAge ['5'] 5 :=
    ⟨by decide, List.forall_mem_singleton.mpr rfl, by decide, by decide⟩
  have hquoted : IsAge "\"5\"".toList 5 := ⟨['5'], .inr rfl, hfive⟩
  have hsigned : ReadsAsAge "+5".toList 5 :=
    ⟨[], ['+'], ['5'], [], rfl, by simp, by simp, .inr rfl, hfive⟩
  refine ⟨hquoted, ?_, fun h => absurd (isAge_iff.mp h).2.1 (by decide), ?_⟩
  · exact ((maxAge_iff_readsAsAge "max-age=\"5\"").2.1
      ⟨"max-age", some "\"5\""⟩ (by rfl)).1 5 hquoted
  · exact ((maxAge_iff_readsAsAge "max-age=+5").1 5).mpr
      ⟨⟨"max-age", some "+5"⟩, by rfl, hsigned⟩

end Header

end HstsPreload
