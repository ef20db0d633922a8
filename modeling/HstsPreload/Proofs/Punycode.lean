import HstsPreload.Host.Punycode
import Mathlib.Tactic.Lemma
import Mathlib.Tactic.SplitIfs
import Mathlib.Tactic.Ring

/-!
# Punycode read back

A distance is read back from its digits. While a label is written, the distance so far is how far
reading still has to go: over the codes passed since the character read last, each as many places
wide as there are characters placed, and over the places passed in this code. So reading follows
writing character by character, and a label that is not too long is read back from its punycode.
-/

namespace HstsPreload.Host.Punycode

/-- The letters and digits that distances are written with. -/
def IsDigit (c : Char) : Prop :=
  0x61 ≤ c.toNat ∧ c.toNat ≤ 0x7a ∨ 0x30 ≤ c.toNat ∧ c.toNat ≤ 0x39

section Digits

variable {n place bias : Nat}

lemma digit?_digit (h : n < 36) : digit? (digit n) = some n := by
  have hall : ∀ n < 36, digit? (digit n) = some n := by decide
  exact hall n h

lemma isDigit_digit (h : n < 36) : IsDigit (digit n) := by
  have hall : ∀ n < 36, 0x61 ≤ (digit n).toNat ∧ (digit n).toNat ≤ 0x7a ∨
      0x30 ≤ (digit n).toNat ∧ (digit n).toNat ≤ 0x39 := by decide
  exact hall n h

lemma threshold_bounds (place bias : Nat) : 1 ≤ threshold place bias ∧ threshold place bias ≤ 26 := by
  unfold threshold
  split_ifs <;> omega

end Digits

section Distance

variable {bias fuel q i weight place : Nat} {rest : List Char}

/-- The digits so far weigh a power of 35 until the thresholds are at their largest. -/
lemma next_lt_bound (hweight : place ≤ bias + 36 → ∃ k, weight = 35 ^ k)
    (hsum : i + q * weight < 35 ^ 6) (hq : threshold place bias ≤ q) :
    weight * (36 - threshold place bias) < bound := by
  obtain ⟨hlow, hhigh⟩ := threshold_bounds place bias
  have hle : threshold place bias * weight ≤ q * weight := Nat.mul_le_mul_right _ hq
  by_cases hplace : place ≤ bias + 36
  · obtain ⟨k, rfl⟩ := hweight hplace
    have hk : k < 6 := by
      by_contra hk
      have : 35 ^ 6 ≤ 35 ^ k := Nat.pow_le_pow_right (by decide) (by omega)
      have : 1 * 35 ^ k ≤ threshold place bias * 35 ^ k := Nat.mul_le_mul_right _ hlow
      omega
    have hpow : 35 ^ k ≤ 35 ^ 5 := Nat.pow_le_pow_right (by decide) (by omega)
    calc 35 ^ k * (36 - threshold place bias)
        ≤ 35 ^ 5 * 35 := Nat.mul_le_mul hpow (by omega)
      _ < bound := by decide
  · have hlarge : threshold place bias = 26 := by
      unfold threshold
      rw [if_neg (by omega)]
      omega
    rw [hlarge] at hle ⊢
    have : bound = 4294967296 := rfl
    omega

lemma readDelta_writeDelta (hweight : place ≤ bias + 36 → ∃ k, weight = 35 ^ k)
    (hsum : i + q * weight < 35 ^ 6) (hfuel : 10 * q + 1 < 10 ^ fuel) :
    readDelta bias i weight place (writeDelta bias fuel q place ++ rest)
      = some (i + q * weight, rest) := by
  induction fuel generalizing q i weight place with
  | zero => omega
  | succ fuel ih =>
    have hbound : 35 ^ 6 < bound := by decide
    have hnext := next_lt_bound hweight hsum
    obtain ⟨hlow, hhigh⟩ := threshold_bounds place bias
    rw [writeDelta]
    split_ifs with hlast
    · rw [List.singleton_append, readDelta, digit?_digit (by omega)]
      dsimp only
      rw [if_neg (by omega), if_pos hlast]
    · have hnext := hnext (Nat.le_of_not_lt hlast)
      have hplace : place + 36 ≤ bias + 36 → threshold place bias = 1 := fun h => by
        rw [threshold, if_pos (by omega)]
      generalize ht : threshold place bias = t at *
      have hd : t + (q - t) % (36 - t) < 36 := by
        have := Nat.mod_lt (q - t) (show 0 < 36 - t by omega)
        omega
      have hq : q = t + (q - t) % (36 - t) + (q - t) / (36 - t) * (36 - t) := by
        have := Nat.mod_add_div' (q - t) (36 - t)
        omega
      have hle : t ≤ t + (q - t) % (36 - t) := Nat.le_add_right _ _
      generalize t + (q - t) % (36 - t) = d at *
      generalize (q - t) / (36 - t) = more at *
      have htotal : i + d * weight + more * (weight * (36 - t)) = i + q * weight := by
        rw [hq]
        ring
      have hten : more * 10 ≤ more * (36 - t) := Nat.mul_le_mul_left _ (by omega)
      have hweight : place + 36 ≤ bias + 36 → ∃ k, weight * (36 - t) = 35 ^ k := fun h => by
        obtain ⟨k, hk⟩ := hweight (by omega)
        exact ⟨k + 1, by rw [hk, hplace h, Nat.pow_succ]⟩
      rw [List.cons_append, readDelta, digit?_digit hd]
      dsimp only
      rw [ht, if_neg (by omega), if_neg (by omega), if_neg (by omega),
        ih hweight (by omega) (by omega), htotal]

end Distance

section Reading

variable {n i bias code : Nat} {c : Char} {placed digits rest label : List Char}

/-- Whether digits are read as the rest of a label. -/
def Reads (n i bias : Nat) (placed digits label : List Char) : Prop :=
  ∀ fuel, digits.length ≤ fuel → readChars fuel n i bias placed digits = some label

lemma Reads.nil : Reads n i bias placed [] placed := by
  intro fuel _
  cases fuel with
  | zero => rfl
  | succ fuel => rw [readChars, if_pos rfl]

lemma writeDelta_ne_nil {fuel q place : Nat} : writeDelta bias (fuel + 1) q place ≠ [] := by
  rw [writeDelta]
  split_ifs <;> simp

lemma isDigit_of_mem_writeDelta {fuel q place : Nat} (h : c ∈ writeDelta bias fuel q place) :
    IsDigit c := by
  induction fuel generalizing q place with
  | zero => cases h
  | succ fuel ih =>
    obtain ⟨hlow, hhigh⟩ := threshold_bounds place bias
    rw [writeDelta] at h
    split_ifs at h with hlast
    · rw [List.mem_singleton.mp h]
      exact isDigit_digit (by omega)
    · rcases List.mem_cons.mp h with rfl | h
      · have := Nat.mod_lt (q - threshold place bias)
          (show 0 < 36 - threshold place bias by omega)
        exact isDigit_digit (by omega)
      · exact ih h

/-- A character is read from its distance: over `code - n` rounds of the places there are and as
many places more as stand before it. -/
lemma Reads.char {delta : Nat} {before after : List Char}
    (hdelta : i + delta = (c.toNat - n) * ((before ++ after).length + 1) + before.length)
    (hcode : n ≤ c.toNat) (hsum : i + delta < 35 ^ 6)
    (h : Reads c.toNat (before.length + 1) (adapt delta ((before ++ after).length + 1) (i == 0))
      (before ++ c :: after) rest label) :
    Reads n i bias (before ++ after) (writeDelta bias 64 delta 36 ++ rest) label := by
  intro fuel hfuel
  have hread : readDelta bias i 1 36 (writeDelta bias 64 delta 36 ++ rest)
      = some (i + delta * 1, rest) :=
    readDelta_writeDelta (fun _ => ⟨0, rfl⟩) (by rwa [Nat.mul_one]) (by omega)
  have hlength : 0 < (writeDelta bias 64 delta 36).length :=
    List.length_pos_iff.mpr writeDelta_ne_nil
  rw [List.length_append] at hfuel
  obtain ⟨fuel, rfl⟩ : ∃ k, fuel = k + 1 := ⟨fuel - 1, by omega⟩
  have hne : writeDelta bias 64 delta 36 ++ rest ≠ [] := by simp [writeDelta_ne_nil]
  have hvalid : c.toNat < 0xd800 ∨ 0xe000 ≤ c.toNat ∧ c.toNat < 0x110000 := c.valid
  have hlt : before.length < (before ++ after).length + 1 := by
    rw [List.length_append]
    omega
  have hround : (i + delta) / ((before ++ after).length + 1) = c.toNat - n := by
    rw [hdelta, Nat.mul_comm, Nat.mul_add_div (Nat.zero_lt_succ _), Nat.div_eq_of_lt hlt,
      Nat.add_zero]
  have hplace : (i + delta) % ((before ++ after).length + 1) = before.length := by
    rw [hdelta, Nat.mul_comm, Nat.mul_add_mod, Nat.mod_eq_of_lt hlt]
  rw [readChars, if_neg hne, hread, Nat.mul_one]
  dsimp only
  rw [hround, hplace, Nat.add_sub_cancel' hcode, if_pos hvalid, Nat.add_sub_cancel_left,
    List.take_left, List.drop_left, Char.ofNat_toNat]
  exact h fuel (by omega)

end Reading

section Writing

variable {n i code least fuel : Nat} {c : Char} {p : Progress} {cs before after rest : List Char}

def below (code : Nat) (cs : List Char) : List Char :=
  cs.filter (·.toNat < code)

lemma below_cons_of_lt (h : c.toNat < code) : below code (c :: cs) = c :: below code cs :=
  List.filter_cons_of_pos (decide_eq_true h)

lemma below_cons_of_le (h : code ≤ c.toNat) : below code (c :: cs) = below code cs :=
  List.filter_cons_of_neg (by simpa using h)

lemma below_eq_self (h : ∀ c ∈ cs, c.toNat < code) : below code cs = cs :=
  List.filter_eq_self.mpr fun c hc => decide_eq_true (h c hc)

lemma length_below_le : (below code cs).length ≤ cs.length :=
  List.length_filter_le _ _

/-- Where reading stands, after a character of code `n` in front of place `i`, when writing has come
to code `code` and to the place between `before` and `after`. -/
structure Follows (p : Progress) (code n i : Nat) (before after : List Char) : Prop where
  placed : p.placed = (before ++ after).length
  reached : n ≤ code
  distance : i + p.delta = (code - n) * ((before ++ after).length + 1) + before.length
  first : p.first = (i == 0)

lemma Follows.sum_lt (h : Follows p code n i before after) (hcode : code < 0x110000)
    (hshort : (before ++ after).length < 1000) : i + p.delta < 35 ^ 6 := by
  have hrounds : (code - n) * ((before ++ after).length + 1) ≤ 0x110000 * 1000 :=
    Nat.mul_le_mul (by omega) (by omega)
  have hdistance := h.distance
  rw [List.length_append] at hshort
  omega

lemma Follows.pass (h : Follows p code n i before (c :: after)) :
    Follows { p with delta := p.delta + 1 } code n i (before ++ [c]) after := by
  obtain ⟨hplaced, hcode, hdistance, hfirst⟩ := h
  refine ⟨?_, hcode, ?_, hfirst⟩
  · simpa using hplaced
  · simp only [List.length_append, List.length_cons, List.length_nil] at hdistance ⊢
    have hlength : before.length + (0 + 1) + after.length = before.length + (after.length + 1) := by
      omega
    rw [hlength]
    omega

lemma Follows.place (h : Follows p c.toNat n i before after) (fuel : Nat) :
    Follows
      { delta := 0, bias := adapt p.delta (p.placed + 1) p.first, placed := p.placed + 1,
        first := false, written := p.written ++ writeDelta p.bias fuel p.delta 36 }
      c.toNat c.toNat (before.length + 1) (before ++ [c]) after := by
  refine ⟨?_, Nat.le_refl _, ?_, rfl⟩
  · have hplaced := h.placed
    simp only [List.length_append, List.length_singleton] at hplaced ⊢
    omega
  · simp

/-- One pass over the label: reading what it writes places the characters of one code. -/
lemma writeCode_reads (h : Follows p code n i before (below code rest))
    (hcode : code < 0x110000) (hshort : before.length + rest.length ≤ 1000) :
    ∃ w n' i', (writeCode code p rest).written = p.written ++ w ∧ (∀ c ∈ w, IsDigit c) ∧
      Follows (writeCode code p rest) code n' i' (before ++ below (code + 1) rest) [] ∧
      ∀ digits label, Reads n' i' (writeCode code p rest).bias (before ++ below (code + 1) rest)
        digits label → Reads n i p.bias (before ++ below code rest) (w ++ digits) label := by
  -- smaller codes are passed, the code itself is written, and larger ones are not there yet
  induction rest generalizing p n i before with
  | nil =>
    refine ⟨[], n, i, (List.append_nil _).symm, by simp, ?_, fun _ _ => id⟩
    rwa [below, List.filter_nil, List.append_nil]
  | cons c rest ih =>
    rw [List.length_cons] at hshort
    rw [writeCode]
    split_ifs with hlt heq
    · rw [below_cons_of_lt hlt] at h ⊢
      have hcons : before ++ below (code + 1) (c :: rest) = before ++ [c] ++ below (code + 1) rest := by
        rw [below_cons_of_lt (by omega), List.append_assoc]
        rfl
      have hsame : before ++ c :: below code rest = before ++ [c] ++ below code rest := by
        rw [List.append_assoc]
        rfl
      rw [hcons, hsame]
      exact ih h.pass (by rw [List.length_append, List.length_singleton]; omega)
    · subst heq
      rw [below_cons_of_le (Nat.le_refl _)] at h ⊢
      have hcons : before ++ below (c.toNat + 1) (c :: rest)
          = before ++ [c] ++ below (c.toNat + 1) rest := by
        rw [below_cons_of_lt (by omega), List.append_assoc]
        rfl
      have hlength : (before ++ below c.toNat rest).length < 1000 := by
        have : (below c.toNat rest).length ≤ rest.length := length_below_le
        rw [List.length_append]
        omega
      obtain ⟨w, n', i', hwritten, hdigits, hfollows, hreads⟩ :=
        ih (h.place 64) (by rw [List.length_append, List.length_singleton]; omega)
      rw [hcons]
      refine ⟨writeDelta p.bias 64 p.delta 36 ++ w, n', i', ?_, ?_, hfollows, ?_⟩
      · rw [hwritten, List.append_assoc]
      · intro d hd
        rcases List.mem_append.mp hd with hd | hd
        · exact isDigit_of_mem_writeDelta hd
        · exact hdigits d hd
      · intro digits label hlabel
        rw [List.append_assoc]
        refine Reads.char h.distance h.reached (h.sum_lt hcode hlength) ?_
        have := hreads digits label hlabel
        rwa [h.placed, h.first, List.append_assoc] at this
    · have hsame : below code (c :: rest) = below code rest := below_cons_of_le (by omega)
      have hnext : below (code + 1) (c :: rest) = below (code + 1) rest :=
        below_cons_of_le (by omega)
      rw [hsame] at h ⊢
      rw [hnext]
      exact ih h (by omega)

lemma nextCode_eq_none (h : nextCode least cs = none) : ∀ c ∈ cs, c.toNat < least := by
  rw [nextCode, List.min?_eq_none_iff, List.filter_eq_nil_iff] at h
  intro c hc
  have := h _ (List.mem_map_of_mem hc)
  simpa using this

lemma nextCode_eq_some (h : nextCode least cs = some code) :
    least ≤ code ∧ (∃ c ∈ cs, c.toNat = code) ∧ ∀ c ∈ cs, c.toNat < code → c.toNat < least := by
  rw [nextCode, List.min?_eq_some_iff] at h
  obtain ⟨hmem, hmin⟩ := h
  obtain ⟨hcode, hleast⟩ := List.mem_filter.mp hmem
  refine ⟨of_decide_eq_true hleast, List.mem_map.mp hcode, ?_⟩
  intro c hc hlt
  by_contra hge
  have := hmin _ (List.mem_filter.mpr ⟨List.mem_map_of_mem hc, by simpa using hge⟩)
  omega

lemma below_next (h : nextCode least cs = some code) : below code cs = below least cs := by
  obtain ⟨hle, -, hnone⟩ := nextCode_eq_some h
  refine List.filter_congr fun c hc => ?_
  rw [decide_eq_decide]
  exact ⟨hnone c hc, fun hlt => Nat.lt_of_lt_of_le hlt hle⟩

/-- Going on to the next code, over as many places for each code passed as there are. -/
lemma Follows.advance (h : Follows p least n i [] after) (hle : least ≤ code) :
    Follows { p with delta := p.delta + (code - least) * (p.placed + 1) } code n i [] after := by
  obtain ⟨hplaced, hreached, hdistance, hfirst⟩ := h
  refine ⟨hplaced, Nat.le_trans hreached hle, ?_, hfirst⟩
  have hsum : code - n = (least - n) + (code - least) := by omega
  rw [hsum, Nat.add_mul, ← hplaced]
  rw [← hplaced] at hdistance
  simp only [List.length_nil, Nat.add_zero] at hdistance ⊢
  omega

/-- Going on to the next code after the last place. -/
lemma Follows.wrap (h : Follows p code n i before []) :
    Follows { p with delta := p.delta + 1 } (code + 1) n i [] before := by
  obtain ⟨hplaced, hreached, hdistance, hfirst⟩ := h
  refine ⟨by simpa using hplaced, Nat.le_succ_of_le hreached, ?_, hfirst⟩
  have hsum : code + 1 - n = (code - n) + 1 := by omega
  rw [hsum, Nat.add_mul]
  simp only [List.append_nil, List.nil_append, List.length_nil, Nat.add_zero] at hdistance ⊢
  omega

lemma Reads.of_below {bias : Nat} (h : ∀ c ∈ cs, c.toNat < least) :
    Reads n i bias (below least cs) [] cs := by
  rw [below_eq_self h]
  exact .nil

lemma writeFrom_reads (h : Follows p least n i [] (below least cs)) (hshort : cs.length ≤ 1000)
    (hfuel : (cs.filter (least ≤ ·.toNat)).length ≤ fuel) :
    ∃ w, writeFrom cs fuel least p = p.written ++ w ∧ (∀ c ∈ w, IsDigit c) ∧
      Reads n i p.bias (below least cs) w cs := by
  -- each code that is written leaves fewer characters to place, so the fuel lasts
  induction fuel generalizing p least n i with
  | zero =>
    rw [Nat.le_zero, List.length_eq_zero_iff, List.filter_eq_nil_iff] at hfuel
    refine ⟨[], (List.append_nil _).symm, by simp, .of_below fun c hc => ?_⟩
    simpa using hfuel c hc
  | succ fuel ih =>
    rw [writeFrom]
    cases hnext : nextCode least cs with
    | none => exact ⟨[], (List.append_nil _).symm, by simp, .of_below (nextCode_eq_none hnext)⟩
    | some code =>
      obtain ⟨hle, ⟨c, hc, hcode⟩, -⟩ := nextCode_eq_some hnext
      have hless : (cs.filter (code + 1 ≤ ·.toNat)).length < (cs.filter (least ≤ ·.toNat)).length := by
        have hfilter : cs.filter (code + 1 ≤ ·.toNat)
            = (cs.filter (least ≤ ·.toNat)).filter (code + 1 ≤ ·.toNat) := by
          rw [List.filter_filter]
          refine List.filter_congr fun d _ => ?_
          rw [← Bool.decide_and, decide_eq_decide]
          omega
        rw [hfilter, List.length_filter_lt_length_iff_exists]
        refine ⟨c, List.mem_filter.mpr ⟨hc, ?_⟩, ?_⟩
        · simpa using hcode ▸ hle
        · simp [hcode]
      have hvalid : code < 0x110000 := by
        have hc : c.toNat < 0xd800 ∨ 0xdfff < c.toNat ∧ c.toNat < 0x110000 := c.valid
        omega
      have hadvance := h.advance hle
      rw [← below_next hnext] at hadvance ⊢
      obtain ⟨w, n', i', hwritten, hdigits, hfollows, hreads⟩ :=
        writeCode_reads hadvance hvalid (by simpa using hshort)
      obtain ⟨w', hwritten', hdigits', hreads'⟩ := ih hfollows.wrap (by omega)
      refine ⟨w ++ w', ?_, ?_, hreads w' cs hreads'⟩
      · dsimp only
        rw [hwritten', hwritten, List.append_assoc]
      · intro d hd
        rcases List.mem_append.mp hd with hd | hd
        · exact hdigits d hd
        · exact hdigits' d hd

end Writing

section Labels

variable {c : Char} {label base digits cs : List Char}

lemma splitBase_digits (h : '-' ∉ digits) : splitBase digits = ([], digits) := by
  have hall : ∀ c ∈ digits.reverse, decide (c ≠ '-') = true := by
    intro c hc
    rw [decide_eq_true_iff]
    rintro rfl
    exact h (List.mem_reverse.mp hc)
  have htake : (digits.reverse ++ []).takeWhile (· ≠ '-') = digits.reverse ++ [] :=
    List.takeWhile_append_of_pos hall
  rw [List.append_nil] at htake
  rw [splitBase, htake, List.reverse_reverse, Nat.sub_self]
  rfl

lemma splitBase_append (h : '-' ∉ digits) : splitBase (base ++ '-' :: digits) =
    if base = [] then ([], base ++ '-' :: digits) else (base, digits) := by
  have hall : ∀ c ∈ digits.reverse, decide (c ≠ '-') = true := by
    intro c hc
    rw [decide_eq_true_iff]
    rintro rfl
    exact h (List.mem_reverse.mp hc)
  have hreverse : (base ++ '-' :: digits).reverse = digits.reverse ++ '-' :: base.reverse := by simp
  have hlength : (base ++ '-' :: digits).length - digits.length - 1 = base.length := by
    rw [List.length_append, List.length_cons]
    omega
  rw [splitBase, hreverse, List.takeWhile_append_of_pos hall, List.takeWhile_cons_of_neg (by simp),
    List.append_nil, List.reverse_reverse, hlength, List.take_left]

lemma splitBase_cases (cs : List Char) : splitBase cs = ([], cs) ∨
    ∃ base digits, cs = base ++ '-' :: digits ∧ splitBase cs = (base, digits) := by
  by_cases h : '-' ∈ cs
  · obtain ⟨back, front, hcs, hback⟩ := List.eq_append_cons_of_mem (List.mem_reverse.mpr h)
    have hcs : cs = front.reverse ++ '-' :: back.reverse := by
      rw [← List.reverse_reverse cs, hcs]
      simp
    rw [hcs, splitBase_append (by simpa using hback)]
    split_ifs
    · exact .inl rfl
    · exact .inr ⟨_, _, rfl, rfl⟩
  · exact .inl (splitBase_digits h)

/-- How a label is written: its ASCII characters, a hyphen if there are any, and the distances. -/
lemma exists_encode (hshort : label.length ≤ 1000) : ∃ w, (∀ c ∈ w, IsDigit c) ∧
    Reads 128 0 72 (below 128 label) w label ∧
    encode label = (if below 128 label = [] then [] else below 128 label ++ ['-']) ++ w := by
  have hstart : Follows ⟨0, 72, (below 128 label).length, true, []⟩ 128 128 0 []
      (below 128 label) := ⟨rfl, Nat.le_refl _, by simp, rfl⟩
  obtain ⟨w, hwritten, hdigits, hreads⟩ :=
    writeFrom_reads hstart hshort (List.length_filter_le _ _)
  exact ⟨w, hdigits, hreads, by rw [encode, ← below, hwritten]; rfl⟩

lemma IsDigit.ne_hyphen (h : IsDigit c) : c ≠ '-' := by
  rintro rfl
  revert h
  unfold IsDigit
  decide

lemma mem_below {code : Nat} (h : c ∈ below code label) : c ∈ label ∧ c.toNat < code := by
  obtain ⟨hc, hlt⟩ := List.mem_filter.mp h
  exact ⟨hc, of_decide_eq_true hlt⟩

theorem decode_encode (hshort : label.length ≤ 1000) : decode (encode label) = some label := by
  obtain ⟨w, hdigits, hreads, hencode⟩ := exists_encode hshort
  have hhyphen : '-' ∉ w := fun h => (hdigits _ h).ne_hyphen rfl
  have hbase : (below 128 label).all (·.toNat < 128) = true := by
    rw [List.all_eq_true]
    exact fun c hc => decide_eq_true (mem_below hc).2
  have hsplit : splitBase (encode label) = (below 128 label, w) := by
    rw [hencode]
    split_ifs with hnone
    · rw [List.nil_append, splitBase_digits hhyphen, hnone]
    · rw [List.append_assoc, List.singleton_append, splitBase_append hhyphen, if_neg hnone]
  rw [decode, hsplit]
  dsimp only
  rw [if_pos hbase]
  exact hreads _ (Nat.le_refl _)

lemma mem_encode (hshort : label.length ≤ 1000) (h : c ∈ encode label) :
    IsDigit c ∨ c = '-' ∨ c ∈ label ∧ c.toNat < 128 := by
  obtain ⟨w, hdigits, -, hencode⟩ := exists_encode hshort
  rw [hencode, List.mem_append] at h
  rcases h with h | h
  · split_ifs at h
    · cases h
    · rcases List.mem_append.mp h with h | h
      · exact .inr (.inr (mem_below h))
      · exact .inr (.inl (List.mem_singleton.mp h))
  · exact .inl (hdigits c h)

lemma getLast?_encode (hshort : label.length ≤ 1000) (hwide : ∃ c ∈ label, 128 ≤ c.toNat) :
    ∃ c, (encode label).getLast? = some c ∧ IsDigit c := by
  obtain ⟨w, hdigits, hreads, hencode⟩ := exists_encode hshort
  have hne : w ≠ [] := by
    rintro rfl
    have hsame : below 128 label = label := Option.some.inj (hreads 0 (Nat.le_refl _))
    obtain ⟨c, hc, hle⟩ := hwide
    rw [← hsame] at hc
    have := (mem_below hc).2
    omega
  refine ⟨w.getLast hne, ?_, hdigits _ (List.getLast_mem hne)⟩
  rw [hencode, List.getLast?_append, List.getLast?_eq_some_getLast hne]
  rfl

lemma readDelta_digits {bias i weight place sum : Nat} {rest : List Char}
    (h : readDelta bias i weight place cs = some (sum, rest)) :
    ∃ front, cs = front ++ rest ∧ front ≠ [] ∧ ∀ c ∈ front, (digit? c).isSome = true := by
  induction cs generalizing i weight place with
  | nil => cases h
  | cons c cs ih =>
    rw [readDelta] at h
    cases hd : digit? c with
    | none =>
      rw [hd] at h
      cases h
    | some d =>
      rw [hd] at h
      dsimp only at h
      split_ifs at h
      · obtain ⟨-, rfl⟩ : _ ∧ cs = rest := by simpa using h
        exact ⟨[c], rfl, by simp, by simp [hd]⟩
      · obtain ⟨front, rfl, -, hfront⟩ := ih h
        refine ⟨c :: front, rfl, by simp, ?_⟩
        intro e he
        rcases List.mem_cons.mp he with rfl | he
        · rw [hd]
          rfl
        · exact hfront e he

lemma readChars_digits {fuel n i bias : Nat} {placed : List Char} (hfuel : cs.length ≤ fuel)
    (h : readChars fuel n i bias placed cs = some label) :
    (∀ c ∈ placed, c ∈ label) ∧ ∀ c ∈ cs, (digit? c).isSome = true := by
  induction fuel generalizing n i bias placed cs with
  | zero =>
    rw [Nat.le_zero, List.length_eq_zero_iff] at hfuel
    cases h
    exact ⟨fun _ => id, by simp [hfuel]⟩
  | succ fuel ih =>
    rw [readChars] at h
    split_ifs at h with hnil
    · cases h
      exact ⟨fun _ => id, by simp [hnil]⟩
    · split at h
      · cases h
      · next sum rest hread =>
        obtain ⟨front, rfl, hne, hfront⟩ := readDelta_digits hread
        have hpos := List.length_pos_iff.mpr hne
        rw [List.length_append] at hfuel
        dsimp only at h
        split_ifs at h
        obtain ⟨hplaced, hrest⟩ := ih (by omega) h
        constructor
        · intro c hc
          apply hplaced
          rw [← List.take_append_drop (sum % (placed.length + 1)) placed, List.mem_append] at hc
          rw [List.mem_append, List.mem_cons]
          tauto
        · intro c hc
          rcases List.mem_append.mp hc with hc | hc
          · exact hfront c hc
          · exact hrest c hc

theorem mem_of_decode (h : decode cs = some label) (hc : c ∈ cs) :
    (digit? c).isSome = true ∨ c = '-' ∨ c ∈ label := by
  unfold decode at h
  rcases splitBase_cases cs with hsplit | ⟨base, digits, rfl, hsplit⟩
  · rw [hsplit] at h
    dsimp only at h
    split_ifs at h
    exact .inl ((readChars_digits (Nat.le_refl _) h).2 c hc)
  · rw [hsplit] at h
    dsimp only at h
    split_ifs at h
    obtain ⟨hbase, hdigits⟩ := readChars_digits (Nat.le_refl _) h
    rcases List.mem_append.mp hc with hc | hc
    · exact .inr (.inr (hbase c hc))
    · rcases List.mem_cons.mp hc with hc | hc
      · exact .inr (.inl hc)
      · exact .inl (hdigits c hc)

end Labels

end HstsPreload.Host.Punycode
