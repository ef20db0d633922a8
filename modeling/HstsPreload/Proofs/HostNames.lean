import HstsPreload.Host.Label
import HstsPreload.Proofs.NormalForm
import HstsPreload.Proofs.Outcomes
import HstsPreload.Proofs.Punycode
import Mathlib.Data.List.Forall2

/-!
# Host names in ASCII form

The ASCII form of a name holds no capitals, no forbidden characters and nothing that is not ASCII.
Brought into ASCII form once more it stays as it is, as long as its labels are not too long to be
read as punycode.
-/

namespace HstsPreload.Host

open HstsPreload.Text HstsPreload.Unicode

/-- The characters of names in ASCII form. -/
structure IsHostChar (c : Char) : Prop where
  ascii : c.toNat < 128
  lower : ¬(0x41 ≤ c.toNat ∧ c.toNat ≤ 0x5a)
  allowed : isForbidden c = false

instance (c : Char) : Decidable (IsHostChar c) :=
  decidable_of_iff
    (c.toNat < 128 ∧ ¬(0x41 ≤ c.toNat ∧ c.toNat ≤ 0x5a) ∧ isForbidden c = false)
    ⟨fun ⟨hascii, hlower, hallowed⟩ => ⟨hascii, hlower, hallowed⟩,
      fun ⟨hascii, hlower, hallowed⟩ => ⟨hascii, hlower, hallowed⟩⟩

section Characters

variable {c : Char} {cs : List Char}

lemma code_of_isForbidden (h : isForbidden c = true) : c.toNat ≤ 32 ∨ c.toNat = 127 ∨
    c.toNat ∈ [37, 35, 47, 58, 60, 62, 63, 64, 91, 92, 93, 94, 124] := by
  simp only [isForbidden, Bool.or_eq_true, decide_eq_true_eq, beq_iff_eq,
    List.contains_iff_mem, or_assoc] at h
  rcases h with h | h | h
  · exact .inl h
  · exact .inr (.inl h)
  · exact .inr (.inr (List.mem_map_of_mem (f := Char.toNat) h))

lemma isForbidden_of_isDigit (h : Punycode.IsDigit c) : isForbidden c = false := by
  by_contra hc
  have := code_of_isForbidden (Bool.eq_true_of_not_eq_false hc)
  simp only [List.mem_cons, List.not_mem_nil, or_false] at this
  unfold Punycode.IsDigit at h
  omega

lemma code_of_digit? (h : (Punycode.digit? c).isSome = true) :
    (0x61 ≤ c.toNat ∧ c.toNat ≤ 0x7a) ∨ (0x41 ≤ c.toNat ∧ c.toNat ≤ 0x5a) ∨
      (0x30 ≤ c.toNat ∧ c.toNat ≤ 0x39) := by
  unfold Punycode.digit? at h
  split_ifs at h with hlower hupper hdigit
  · exact .inl hlower
  · exact .inr (.inl hupper)
  · exact .inr (.inr hdigit)
  · cases h

lemma isForbidden_of_digit? (h : (Punycode.digit? c).isSome = true) : isForbidden c = false := by
  by_contra hc
  have := code_of_isForbidden (Bool.eq_true_of_not_eq_false hc)
  simp only [List.mem_cons, List.not_mem_nil, or_false] at this
  have := code_of_digit? h
  omega

lemma kept_of_ascii (h : c.toNat < 128) : Kept c ↔ ¬(0x41 ≤ c.toNat ∧ c.toNat ≤ 0x5a) := by
  rw [kept_iff, sources_agree.ascii h]

lemma IsHostChar.kept (h : IsHostChar c) : Kept c :=
  (kept_of_ascii h.ascii).mpr h.lower

lemma isHostChar_of_isDigit (h : Punycode.IsDigit c) : IsHostChar c := by
  refine ⟨?_, ?_, isForbidden_of_isDigit h⟩
  all_goals
    unfold Punycode.IsDigit at h
    omega

lemma mapChars_of_kept (h : ∀ c ∈ cs, Kept c) : mapChars cs = some cs := by
  induction cs with
  | nil => rfl
  | cons c cs ih =>
    have hc : hostMapping c = some [c] := h c List.mem_cons_self
    rw [mapChars, hc, ih fun d hd => h d (List.mem_cons_of_mem _ hd)]
    rfl

lemma kept_of_mapChars {name : List Char} (h : mapChars cs = some name) : ∀ c ∈ name, Kept c := by
  induction cs generalizing name with
  | nil =>
    cases h
    simp
  | cons c cs ih =>
    rw [mapChars, Option.bind_eq_bind, Option.bind_eq_some_iff] at h
    obtain ⟨front, hfront, h⟩ := h
    obtain ⟨rest, hrest, h⟩ := Option.bind_eq_some_iff.mp h
    cases h
    intro d hd
    rcases List.mem_append.mp hd with hd | hd
    · exact kept_of_mem_mapping hfront hd
    · exact ih hrest d hd

lemma mapped_eq_self (hkept : ∀ c ∈ cs, Kept c) (h : composed cs = cs) : mapped cs = some cs := by
  rw [mapped, mapChars_of_kept hkept, Option.map_some, h]

lemma kept_of_mapped {name : List Char} (h : mapped cs = some name) : ∀ c ∈ name, Kept c := by
  obtain ⟨chars, hchars, rfl⟩ := Option.map_eq_some_iff.mp h
  exact kept_composed (kept_of_mapChars hchars)

lemma mapped_piece {name piece : List Char} (h : mapped cs = some name)
    (hpiece : piece ∈ splitAt '.' name) : mapped piece = some piece := by
  have hkept := kept_of_mapped h
  obtain ⟨chars, -, rfl⟩ := Option.map_eq_some_iff.mp h
  refine mapped_eq_self (fun c hc => hkept c ?_) (composed_piece hpiece)
  exact (infix_of_mem_splitAt hpiece).subset hc

end Characters

section Labels

variable {c : Char} {piece encoded label : List Char} {l : Label}

lemma of_decodeLabel (h : decodeLabel encoded = some label) :
    (∀ c ∈ encoded, c.toNat < 128) ∧ encoded.length ≤ longestEncoded ∧
      Punycode.decode encoded = some label ∧ isLabel label = true := by
  unfold decodeLabel at h
  split_ifs at h with hrefused
  push Not at hrefused
  obtain ⟨-, -, hascii, hlength⟩ := hrefused
  cases hdecode : Punycode.decode encoded with
  | none =>
    rw [hdecode] at h
    cases h
  | some chars =>
    rw [hdecode] at h
    dsimp only at h
    split_ifs at h with hlabel
    obtain rfl := Option.some.inj h
    exact ⟨by simpa using hascii, hlength, rfl, hlabel.2.1⟩

/-- How a label of a mapped name is written: as it is if it is ASCII, marked as punycode or not, and
in punycode behind the mark otherwise. -/
lemma ofMapped_cases (h : Label.ofMapped piece = some l) :
    (∃ encoded, piece = aceMark ++ encoded ∧ decodeLabel encoded = some l.chars ∧
      l.ascii = piece) ∨
    (isLabel piece = true ∧ (∀ c ∈ piece, c.toNat < 128) ∧ l.ascii = piece) ∨
    (isLabel piece = true ∧ (∃ c ∈ piece, 128 ≤ c.toNat) ∧ piece.length ≤ longestDecoded ∧
      l = ⟨piece, aceMark ++ Punycode.encode piece⟩) := by
  unfold Label.ofMapped at h
  split_ifs at h with hmark hlabel hascii hlong
  · obtain ⟨chars, hchars, rfl⟩ := Option.map_eq_some_iff.mp h
    refine .inl ⟨piece.drop 4, ?_, hchars, rfl⟩
    rw [← hmark, List.take_append_drop]
  · cases h
    exact .inr (.inl ⟨by simpa using hlabel, by simpa using hascii, rfl⟩)
  · cases h
    exact .inr (.inr ⟨by simpa using hlabel, by simpa using hascii, by omega, rfl⟩)

lemma not_isForbidden (h : isLabel label = true) (hc : c ∈ label) : isForbidden c = false := by
  unfold isLabel at h
  simp only [Bool.and_eq_true, Bool.not_eq_true', List.any_eq_false] at h
  exact Bool.eq_false_of_not_eq_true (h.1.1 c hc)

lemma forall_mem_of_all {p : Char → Prop} [DecidablePred p] {cs : List Char}
    (h : cs.all (p ·) = true) : ∀ c ∈ cs, p c := by
  simpa using h

lemma isHostChar_aceMark : ∀ c ∈ aceMark, IsHostChar c :=
  forall_mem_of_all (by decide)

lemma isHostChar_hyphen : IsHostChar '-' := by
  decide

lemma isHostChar_of_isLabel (h : isLabel label = true) (hc : c ∈ label) (hascii : c.toNat < 128)
    (hkept : Kept c) : IsHostChar c :=
  ⟨hascii, (kept_of_ascii hascii).mp hkept, not_isForbidden h hc⟩

lemma isHostChar_ascii (h : Label.ofMapped piece = some l) (hkept : ∀ c ∈ piece, Kept c) :
    ∀ c ∈ l.ascii, IsHostChar c := by
  intro c hc
  rcases ofMapped_cases h with
    ⟨encoded, rfl, hdecode, heq⟩ | ⟨hlabel, hascii, heq⟩ | ⟨hlabel, -, hlong, rfl⟩
  · rw [heq] at hc
    obtain ⟨hascii, -, hdecode, hlabel⟩ := of_decodeLabel hdecode
    have hkept := hkept c hc
    rcases List.mem_append.mp hc with hc | hc
    · exact isHostChar_aceMark c hc
    · refine ⟨hascii c hc, (kept_of_ascii (hascii c hc)).mp hkept, ?_⟩
      rcases Punycode.mem_of_decode hdecode hc with hdigit | rfl | hc
      · exact isForbidden_of_digit? hdigit
      · exact isHostChar_hyphen.allowed
      · exact not_isForbidden hlabel hc
  · rw [heq] at hc
    exact isHostChar_of_isLabel hlabel hc (hascii c hc) (hkept c hc)
  · rcases List.mem_append.mp hc with hc | hc
    · exact isHostChar_aceMark c hc
    · rcases Punycode.mem_encode hlong hc with hdigit | rfl | ⟨hc, hascii⟩
      · exact isHostChar_of_isDigit hdigit
      · exact isHostChar_hyphen
      · exact isHostChar_of_isLabel hlabel hc hascii (hkept c hc)

lemma stop_notMem_ascii (h : Label.ofMapped piece = some l) (hstop : '.' ∉ piece) :
    '.' ∉ l.ascii := by
  rcases ofMapped_cases h with ⟨-, -, -, heq⟩ | ⟨-, -, heq⟩ | ⟨-, -, hlong, rfl⟩
  · rwa [heq]
  · rwa [heq]
  · intro hc
    rcases List.mem_append.mp hc with hc | hc
    · revert hc
      decide
    · rcases Punycode.mem_encode hlong hc with hdigit | hhyphen | ⟨hc, -⟩
      · revert hdigit
        unfold Punycode.IsDigit
        decide
      · cases hhyphen
      · exact hstop hc

lemma decodeLabel_encode (hlabel : isLabel label = true) (hmapped : mapped label = some label)
    (hstop : '.' ∉ label) (hwide : ∃ c ∈ label, 128 ≤ c.toNat)
    (hlong : label.length ≤ longestDecoded)
    (hshort : (Punycode.encode label).length ≤ longestEncoded) :
    decodeLabel (Punycode.encode label) = some label := by
  have hascii : ∀ c ∈ Punycode.encode label, c.toNat < 128 := by
    intro c hc
    rcases Punycode.mem_encode hlong hc with hdigit | rfl | ⟨-, hascii⟩
    · exact (isHostChar_of_isDigit hdigit).ascii
    · exact isHostChar_hyphen.ascii
    · exact hascii
  obtain ⟨last, hlast, hdigit⟩ := Punycode.getLast?_encode hlong hwide
  have hne : Punycode.encode label ≠ [] := by
    intro hnil
    rw [hnil] at hlast
    cases hlast
  have hhyphen : (Punycode.encode label).getLast? ≠ some '-' := by
    rw [hlast]
    exact fun h => hdigit.ne_hyphen (Option.some.inj h)
  rw [decodeLabel, if_neg, Punycode.decode_encode hlong]
  · dsimp only
    rw [if_pos ⟨hmapped, hlabel, by simpa using hstop⟩]
  · push Not
    exact ⟨hne, hhyphen, by simpa using hascii, hshort⟩

/-- Whether the labels of a name that are marked as punycode are short enough to be read as such. -/
def Readable (ascii : List Char) : Prop :=
  ∀ label ∈ splitAt '.' ascii, aceMark <+: label → label.length ≤ longestEncoded + 4

lemma ofMapped_ascii (h : Label.ofMapped piece = some l) (hmapped : mapped piece = some piece)
    (hstop : '.' ∉ piece)
    (hshort : aceMark <+: l.ascii → l.ascii.length ≤ longestEncoded + 4) :
    Label.ofMapped l.ascii = some l := by
  rcases ofMapped_cases h with ⟨-, -, -, heq⟩ | ⟨-, -, heq⟩ | ⟨hlabel, hwide, hlong, rfl⟩
  · rwa [heq]
  · rwa [heq]
  · have hlength : (Punycode.encode piece).length ≤ longestEncoded := by
      have hmark : aceMark.length = 4 := rfl
      have hshort := hshort (List.prefix_append _ _)
      rw [List.length_append] at hshort
      omega
    have hmark : (aceMark ++ Punycode.encode piece).take 4 = aceMark := rfl
    have hrest : (aceMark ++ Punycode.encode piece).drop 4 = Punycode.encode piece := rfl
    dsimp only
    rw [Label.ofMapped, if_pos hmark, hrest,
      decodeLabel_encode hlabel hmapped hstop hwide hlong hlength]
    rfl

lemma length_of_ofMapped (h : Label.ofMapped piece = some l) (hmark : aceMark <+: piece) :
    piece.length ≤ longestEncoded + 4 := by
  obtain ⟨encoded, rfl⟩ := hmark
  have htake : (aceMark ++ encoded).take 4 = aceMark := rfl
  rw [Label.ofMapped, if_pos htake] at h
  obtain ⟨chars, hdecode, -⟩ := Option.map_eq_some_iff.mp h
  have hlength : encoded.length ≤ longestEncoded := (of_decodeLabel hdecode).2.1
  rw [List.length_append]
  exact Nat.add_comm _ _ ▸ Nat.add_le_add_right hlength 4

lemma ofMapped_eq_self (h : Label.ofMapped piece = some l) (hascii : ∀ c ∈ piece, c.toNat < 128) :
    l.ascii = piece := by
  rcases ofMapped_cases h with ⟨-, -, -, heq⟩ | ⟨-, -, heq⟩ | ⟨-, ⟨c, hc, hwide⟩, -⟩
  · exact heq
  · exact heq
  · exact absurd (hascii c hc) (Nat.not_lt.mpr hwide)

end Labels

section Names

variable {cs ascii : List Char} {labels : List Label}

lemma mapM_eq_some_iff {α β : Type} {f : α → Option β} {xs : List α} {ys : List β} :
    xs.mapM f = some ys ↔ List.Forall₂ (fun x y => f x = some y) xs ys := by
  induction xs generalizing ys with
  | nil => simp [eq_comm]
  | cons x xs ih =>
    rw [List.mapM_cons, Option.bind_eq_bind, Option.bind_eq_some_iff, List.forall₂_cons_left_iff]
    simp only [Option.bind_eq_bind, Option.bind_eq_some_iff, Option.pure_def, Option.some.injEq, ih]
    grind

lemma of_toAscii (h : toAscii cs = some ascii) : ∃ name labels, mapped cs = some name ∧
    List.Forall₂ (fun piece l => Label.ofMapped piece = some l) (splitAt '.' name) labels ∧
    directionsAgree labels = true ∧ ascii = joinWith '.' (labels.map Label.ascii) := by
  unfold toAscii at h
  rw [Option.bind_eq_bind, Option.bind_eq_some_iff] at h
  obtain ⟨name, hname, h⟩ := h
  obtain ⟨labels, hlabels, h⟩ := Option.bind_eq_some_iff.mp h
  split_ifs at h with hdirections
  exact ⟨name, labels, hname, mapM_eq_some_iff.mp hlabels, hdirections, (Option.some.inj h).symm⟩

lemma toAscii_of {name : List Char} (hname : mapped cs = some name)
    (hlabels : List.Forall₂ (fun piece l => Label.ofMapped piece = some l) (splitAt '.' name) labels)
    (hdirections : directionsAgree labels = true) :
    toAscii cs = some (joinWith '.' (labels.map Label.ascii)) := by
  rw [toAscii, hname, Option.bind_eq_bind, Option.bind_some, mapM_eq_some_iff.mpr hlabels,
    Option.bind_eq_bind, Option.bind_some, if_pos hdirections]

theorem isHostChar_toAscii (h : toAscii cs = some ascii) : ∀ c ∈ ascii, IsHostChar c := by
  obtain ⟨name, labels, hname, hlabels, -, rfl⟩ := of_toAscii h
  intro c hc
  rcases mem_joinWith hc with rfl | ⟨piece, hpiece, hc⟩
  · decide
  · obtain ⟨l, hl, rfl⟩ := List.mem_map.mp hpiece
    obtain ⟨piece, hpiece, hl⟩ := exists_of_mem_right hlabels hl
    refine isHostChar_ascii hl (fun d hd => kept_of_mapped hname d ?_) c hc
    exact (infix_of_mem_splitAt hpiece).subset hd

lemma mapped_of_isHostChar (h : ∀ c ∈ cs, IsHostChar c) : mapped cs = some cs :=
  mapped_eq_self (fun c hc => (h c hc).kept) (composed_ascii fun c hc => (h c hc).ascii)

/-- What is made of such characters stays as it is, if it has an ASCII form at all. -/
lemma toAscii_eq_self (hcs : ∀ c ∈ cs, IsHostChar c) (h : toAscii cs = some ascii) :
    ascii = cs := by
  obtain ⟨name, labels, hname, hlabels, -, rfl⟩ := of_toAscii h
  obtain rfl := Option.some.inj ((mapped_of_isHostChar hcs).symm.trans hname)
  have hsame : labels.map Label.ascii = splitAt '.' cs := by
    have hascii : ∀ piece ∈ splitAt '.' cs, ∀ c ∈ piece, c.toNat < 128 := fun piece hpiece c hc =>
      (hcs c ((infix_of_mem_splitAt hpiece).subset hc)).ascii
    clear h hname
    generalize splitAt '.' cs = pieces at hlabels hascii
    induction hlabels with
    | nil => rfl
    | cons hfirst _ ih =>
      rw [List.map_cons, ofMapped_eq_self hfirst (hascii _ List.mem_cons_self),
        ih fun piece hpiece => hascii piece (List.mem_cons_of_mem _ hpiece)]
  rw [hsame, joinWith_splitAt]

/-- A name in ASCII form is its own ASCII form, unless a label is too long to be read back. -/
theorem toAscii_toAscii (h : toAscii cs = some ascii) :
    toAscii ascii = some ascii ↔ Readable ascii := by
  have hchars := isHostChar_toAscii h
  constructor
  · intro hagain label hlabel hmark
    obtain ⟨name, labels, hname, hlabels, -⟩ := of_toAscii hagain
    obtain rfl := Option.some.inj ((mapped_of_isHostChar hchars).symm.trans hname)
    obtain ⟨l, -, hl⟩ := exists_of_mem_left hlabels hlabel
    exact length_of_ofMapped hl hmark
  · intro hshort
    obtain ⟨name, labels, hname, hlabels, hdirections, rfl⟩ := of_toAscii h
    -- the ASCII form is mapped to itself, and each of its labels is read as the label it was made of
    have hsplit : splitAt '.' (joinWith '.' (labels.map Label.ascii)) = labels.map Label.ascii := by
      apply splitAt_joinWith
      · intro hnil
        rw [List.map_eq_nil_iff.mp hnil, List.forall₂_nil_right_iff] at hlabels
        exact splitAt_ne_nil '.' name hlabels
      · intro piece hpiece
        obtain ⟨l, hl, rfl⟩ := List.mem_map.mp hpiece
        obtain ⟨piece, hpiece, hl⟩ := exists_of_mem_right hlabels hl
        exact stop_notMem_ascii hl (not_mem_of_mem_splitAt hpiece)
    refine toAscii_of (mapped_of_isHostChar hchars) ?_ hdirections
    rw [hsplit, List.forall₂_map_left_iff, List.forall₂_same]
    intro l hl
    obtain ⟨piece, hpiece, hofMapped⟩ := exists_of_mem_right hlabels hl
    refine ofMapped_ascii hofMapped (mapped_piece hname hpiece) (not_mem_of_mem_splitAt hpiece) ?_
    apply hshort
    rw [hsplit]
    exact List.mem_map_of_mem hl

end Names

end HstsPreload.Host
