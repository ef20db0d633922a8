import HstsPreload.Host.Basic
import HstsPreload.Proofs.HostNames
import Mathlib.Data.List.Induction

/-!
# Addresses are read back

An address that was read has its 32 bits or its eight groups, and it is read back from the one way
in which it is written: the numbers of the one kind make up a name that ends in a number, and the
groups of the other stand on both sides of the run of zeros that is left out.
-/

namespace HstsPreload.Host

open HstsPreload.Text HstsPreload.Unicode Punycode

section Digits

variable {n : Nat} {c : Char} {cs : List Char}

lemma hexDigit?_digitChar : ∀ d < 16, hexDigit? (Nat.digitChar d) = some d := by
  decide

lemma hexText_eq (n : Nat) :
    hexText n = (if n < 16 then [] else hexText (n / 16)) ++ [Nat.digitChar (n % 16)] := by
  unfold hexText
  rw [Nat.toDigits_eq_if (by decide)]
  split_ifs with h
  · rw [Nat.mod_eq_of_lt h, List.nil_append]
  · rfl

lemma hexText_ne_nil (n : Nat) : hexText n ≠ [] :=
  Nat.toDigits_ne_nil

lemma exists_digit_of_mem_hexText (h : c ∈ hexText n) : ∃ d < 16, c = Nat.digitChar d := by
  induction n using Nat.strongRecOn with
  | ind n ih =>
    rw [hexText_eq, List.mem_append, List.mem_singleton] at h
    rcases h with h | rfl
    · split_ifs at h with hn
      · cases h
      · exact ih (n / 16) (by omega) h
    · exact ⟨n % 16, Nat.mod_lt _ (by decide), rfl⟩

lemma isDigit_of_mem_hexText (h : c ∈ hexText n) : IsDigit c := by
  obtain ⟨d, hd, rfl⟩ := exists_digit_of_mem_hexText h
  have hall : ∀ d < 16, 0x61 ≤ (Nat.digitChar d).toNat ∧ (Nat.digitChar d).toNat ≤ 0x7a ∨
      0x30 ≤ (Nat.digitChar d).toNat ∧ (Nat.digitChar d).toNat ≤ 0x39 := by decide
  exact hall d hd

lemma hexValue_hexText (n : Nat) : hexValue (hexText n) = n := by
  induction n using Nat.strongRecOn with
  | ind n ih =>
    have hdigit := hexDigit?_digitChar (n % 16) (Nat.mod_lt _ (by decide))
    rw [hexText_eq, hexValue, List.foldl_append, List.foldl_cons, List.foldl_nil, hdigit,
      Option.getD_some]
    split_ifs with hn
    · rw [List.foldl_nil]
      omega
    · have hrest := ih (n / 16) (by omega)
      rw [hexValue] at hrest
      rw [hrest]
      omega

lemma hexDigit?_lt {d : Nat} (h : hexDigit? c = some d) : d < 16 := by
  unfold hexDigit? at h
  split_ifs at h with hdecimal hlower hupper
  all_goals
    obtain rfl := Option.some.inj h
  · have hc : c.toNat ≤ '9'.toNat := hdecimal.2
    have hnine : '9'.toNat = '0'.toNat + 9 := rfl
    omega
  · have hc : c.toNat ≤ 'f'.toNat := hlower.2
    have hf : 'f'.toNat = 'a'.toNat + 5 := rfl
    omega
  · have hc : c.toNat ≤ 'F'.toNat := hupper.2
    have hf : 'F'.toNat = 'A'.toNat + 5 := rfl
    omega

lemma hexValue_lt (cs : List Char) : hexValue cs < 16 ^ cs.length := by
  induction cs using List.reverseRecOn with
  | nil => decide
  | append_singleton cs c ih =>
    have hdigit : (hexDigit? c).getD 0 < 16 := by
      cases hc : hexDigit? c with
      | none => decide
      | some d => exact hexDigit?_lt hc
    rw [hexValue] at ih ⊢
    rw [List.foldl_append, List.foldl_cons, List.foldl_nil, List.length_append, List.length_singleton,
      Nat.pow_succ]
    omega

lemma isDigit_of_mem_decimalText (h : c ∈ decimalText n) : IsDigit c := by
  have hdigit : c.isDigit = true := Nat.isDigit_of_mem_toDigits (by decide) (by decide) h
  rw [Char.isDigit_iff_toNat] at hdigit
  exact .inr hdigit

end Digits

section Names

variable {cs : List Char}

lemma Punycode.IsDigit.ne_stop {c : Char} (h : IsDigit c) : c ≠ '.' := by
  rintro rfl
  revert h
  unfold IsDigit
  decide

lemma ascending_bidiRTable : ascending 128 bidiRTable.rows.toList = true := by
  apply Spelled.ascending
  · repeat (first | exact .nil | apply Spelled.cons)
  · decide +kernel

lemma ascending_bidiAlTable : ascending 128 bidiAlTable.rows.toList = true := by
  apply Spelled.ascending
  · repeat (first | exact .nil | apply Spelled.cons)
  · decide +kernel

lemma ascending_bidiAnTable : ascending 128 bidiAnTable.rows.toList = true := by
  apply Spelled.ascending
  · repeat (first | exact .nil | apply Spelled.cons)
  · decide +kernel

lemma ofRightToLeft_of_false {r al an en es cs et on bn nsm other : Bool} {found : BidiClass}
    (h : found = if r then .r else if al then .al else if an then .an else if en then .en
      else if es then .es else if cs then .cs else if et then .et else if on then .on
      else if bn then .bn else if nsm then .nsm else if other then .other else .l)
    (hr : r = false) (hal : al = false) (han : an = false) : ofRightToLeft found = false := by
  subst hr hal han
  simp only [Bool.false_eq_true, if_false] at h
  split_ifs at h
  all_goals
    subst h
    rfl

lemma isRightToLeft_ascii {c : Char} (h : c.toNat < 128) : isRightToLeft c = false :=
  ofRightToLeft_of_false rfl (Table.contains_of_lt ascending_bidiRTable h)
    (Table.contains_of_lt ascending_bidiAlTable h) (Table.contains_of_lt ascending_bidiAnTable h)

lemma joinersStand_ascii (before : List Char) (h : ∀ c ∈ cs, c.toNat < 128) :
    joinersStand before cs = true := by
  induction cs generalizing before with
  | nil => rfl
  | cons c cs ih =>
    obtain ⟨hc, hcs⟩ := List.forall_mem_cons.mp h
    have hjoiner : c ≠ joiner := by
      rintro rfl
      exact absurd hc (by decide)
    have hnonJoiner : c ≠ nonJoiner := by
      rintro rfl
      exact absurd hc (by decide)
    unfold joinersStand
    dsimp only
    rw [if_neg hjoiner, if_neg hnonJoiner, ih _ hcs]
    rfl

lemma ofMapped_of_isDigit (h : ∀ c ∈ cs, IsDigit c) : Label.ofMapped cs = some ⟨cs, cs⟩ := by
  have hascii : ∀ c ∈ cs, c.toNat < 128 := fun c hc => (isHostChar_of_isDigit (h c hc)).ascii
  have hmark : cs.take 4 ≠ aceMark := by
    intro hmark
    have hhyphen : '-' ∈ cs := List.take_subset 4 cs (hmark ▸ by decide)
    exact (h '-' hhyphen).ne_hyphen rfl
  have hlabel : isLabel cs = true := by
    have hforbidden : cs.any isForbidden = false :=
      List.any_eq_false.mpr fun c hc => by simp [isForbidden_of_isDigit (h c hc)]
    unfold isLabel
    rw [hforbidden, joinersStand_ascii [] hascii]
    cases cs with
    | nil => rfl
    | cons c cs => simp [isMark, hascii c List.mem_cons_self]
  have hall : cs.all (·.toNat < 128) = true := by simpa using hascii
  rw [Label.ofMapped, if_neg hmark, hlabel, hall]
  rfl

lemma toAscii_of_isDigit {pieces : List (List Char)} (hne : pieces ≠ [])
    (h : ∀ piece ∈ pieces, ∀ c ∈ piece, IsDigit c) :
    toAscii (joinWith '.' pieces) = some (joinWith '.' pieces) := by
  have hsplit : splitAt '.' (joinWith '.' pieces) = pieces := by
    refine splitAt_joinWith hne fun piece hpiece hstop => ?_
    exact (h piece hpiece '.' hstop).ne_stop rfl
  have hchars : ∀ c ∈ joinWith '.' pieces, IsHostChar c := by
    intro c hc
    rcases mem_joinWith hc with rfl | ⟨piece, hpiece, hc⟩
    · decide
    · exact isHostChar_of_isDigit (h piece hpiece c hc)
  have hlabels : List.Forall₂ (fun piece l => Label.ofMapped piece = some l)
      (splitAt '.' (joinWith '.' pieces)) (pieces.map fun piece => ⟨piece, piece⟩) := by
    rw [hsplit, List.forall₂_map_right_iff, List.forall₂_same]
    exact fun piece hpiece => ofMapped_of_isDigit (h piece hpiece)
  have hdirections : directionsAgree (pieces.map fun piece => ⟨piece, piece⟩) = true := by
    unfold directionsAgree
    rw [List.any_eq_false.mpr]
    · rfl
    · intro l hl
      obtain ⟨piece, hpiece, rfl⟩ := List.mem_map.mp hl
      rw [Bool.not_eq_true, List.any_eq_false]
      intro c hc
      rw [isRightToLeft_ascii (isHostChar_of_isDigit (h piece hpiece c hc)).ascii]
      exact Bool.false_ne_true
  rw [toAscii_of (mapped_of_isHostChar hchars) hlabels hdirections, List.map_map]
  exact congrArg some (congrArg (joinWith '.') (List.map_id pieces))

end Names

namespace Ipv4

variable {a : Ipv4} {cs : List Char}

def Part.number? : Part → Option Nat
  | .number n => some n
  | _ => none

lemma ofName?_eq (cs : List Char) : ofName? cs =
    if 4 < (parts cs).length then none
    else ((parts cs).mapM fun p => (Part.ofText p).number?).bind fun numbers =>
      numbers.getLast?.bind fun last =>
        if 256 ^ (4 - numbers.dropLast.length) ≤ last then none
        else if numbers.dropLast.any (255 < ·) then none
        else some ⟨last + addBytes 0 numbers.dropLast⟩ :=
  rfl

lemma of_ofName? (h : ofName? cs = some a) : ∃ bytes last,
    (parts cs).mapM (fun p => (Part.ofText p).number?) = some (bytes ++ [last]) ∧
    bytes.length ≤ 3 ∧ last < 256 ^ (4 - bytes.length) ∧ (∀ n ∈ bytes, n < 256) ∧
    a = ⟨last + addBytes 0 bytes⟩ := by
  rw [ofName?_eq] at h
  split_ifs at h with hlong
  obtain ⟨numbers, hnumbers, h⟩ := Option.bind_eq_some_iff.mp h
  obtain ⟨last, hlast, h⟩ := Option.bind_eq_some_iff.mp h
  obtain ⟨bytes, rfl⟩ := List.getLast?_eq_some_iff.mp hlast
  rw [List.dropLast_concat] at h
  split_ifs at h with hlarge hany
  have hlength := (mapM_eq_some_iff.mp hnumbers).length_eq
  rw [List.length_append, List.length_singleton] at hlength
  refine ⟨bytes, last, hnumbers, by omega, by omega, ?_, (Option.some.inj h).symm⟩
  intro n hn
  simp only [List.any_eq_true, decide_eq_true_eq, not_exists, not_and] at hany
  have := hany n hn
  omega

lemma addBytes_le {ns : List Nat} {place : Nat} (hplace : place + ns.length ≤ 3)
    (h : ∀ n ∈ ns, n < 256) :
    addBytes place ns + 256 ^ (4 - place - ns.length) ≤ 256 ^ (4 - place) := by
  induction ns generalizing place with
  | nil => simp [addBytes]
  | cons n ns ih =>
    rw [List.length_cons] at hplace
    have hn := h n List.mem_cons_self
    have hrest : addBytes (place + 1) ns + 256 ^ (4 - (place + 1) - ns.length) ≤
        256 ^ (4 - (place + 1)) :=
      ih (by omega) fun m hm => h m (List.mem_cons_of_mem _ hm)
    have hpow : 256 ^ (4 - place) = 256 * 256 ^ (3 - place) := by
      rw [← Nat.pow_succ']
      congr 1
      omega
    have hlength : 4 - place - (ns.length + 1) = 4 - (place + 1) - ns.length := by omega
    have hplace : 4 - (place + 1) = 3 - place := by omega
    rw [addBytes, List.length_cons, hlength, hpow]
    rw [hplace] at hrest ⊢
    have hmul : n * 256 ^ (3 - place) + 256 ^ (3 - place) ≤ 256 * 256 ^ (3 - place) := by
      rw [← Nat.succ_mul]
      exact Nat.mul_le_mul_right _ hn
    change n * 256 ^ (3 - place) + _ + _ ≤ _
    omega

lemma bits_lt (h : ofName? cs = some a) : a.bits < 2 ^ 32 := by
  obtain ⟨bytes, last, -, hlength, hlast, hbytes, rfl⟩ := of_ofName? h
  have hsum : addBytes 0 bytes + 256 ^ (4 - bytes.length) ≤ 256 ^ 4 :=
    addBytes_le (by omega) hbytes
  change last + addBytes 0 bytes < 256 ^ 4
  omega

lemma ofText_decimalText : ∀ n < 256, (Part.ofText (decimalText n)).number? = some n := by
  decide +kernel

def bytes (a : Ipv4) : List Nat :=
  [a.bits / Nat.pow 256 3, a.bits / Nat.pow 256 2 % 256, a.bits / 256 % 256, a.bits % 256]

lemma text_eq (a : Ipv4) : a.text = joinWith '.' (a.bytes.map decimalText) :=
  rfl

lemma decimalText_ne_nil (n : Nat) : decimalText n ≠ [] :=
  Nat.toDigits_ne_nil

lemma splitAt_text (a : Ipv4) : splitAt '.' a.text = a.bytes.map decimalText := by
  rw [text_eq]
  apply splitAt_joinWith (by simp [bytes])
  intro piece hpiece hstop
  obtain ⟨n, -, rfl⟩ := List.mem_map.mp hpiece
  exact (isDigit_of_mem_decimalText hstop).ne_stop rfl

lemma getLast?_bytes (a : Ipv4) :
    (a.bytes.map decimalText).getLast? = some (decimalText (a.bits % 256)) :=
  rfl

lemma getLast?_text (a : Ipv4) : a.text.getLast? ≠ some '.' := by
  intro hlast
  obtain ⟨front, hfront⟩ := List.getLast?_eq_some_iff.mp hlast
  have hsplit := splitAt_text a
  rw [hfront, splitAt_append] at hsplit
  have hempty := getLast?_bytes a
  rw [← hsplit, splitAt, List.getLast?_concat] at hempty
  exact decimalText_ne_nil _ (Option.some.inj hempty).symm

lemma parts_text (a : Ipv4) : parts a.text = a.bytes.map decimalText := by
  unfold parts
  dsimp only
  rw [splitAt_text, getLast?_bytes, if_neg fun h => decimalText_ne_nil _ (Option.some.inj h)]

lemma endsInNumber_text (a : Ipv4) : endsInNumber a.text = true := by
  have hdigits : (decimalText (a.bits % 256)).all Char.isDigit = true :=
    List.all_eq_true.mpr fun c hc => Nat.isDigit_of_mem_toDigits (by decide) (by decide) hc
  unfold endsInNumber
  rw [parts_text, getLast?_bytes]
  simp [decimalText_ne_nil, hdigits]

theorem ofName?_text (h : a.bits < 2 ^ 32) : ofName? a.text = some a := by
  have hbytes : ∀ n ∈ a.bytes, n < 256 := by
    have hhigh : a.bits / Nat.pow 256 3 < 256 := Nat.div_lt_of_lt_mul h
    simp only [bytes, List.forall_mem_cons]
    have := fun n => Nat.mod_lt n (show 256 > 0 by decide)
    simp [hhigh, this]
  have hnumbers : (a.bytes.map decimalText).mapM (fun p => (Part.ofText p).number?) =
      some a.bytes := by
    rw [mapM_eq_some_iff, List.forall₂_map_left_iff, List.forall₂_same]
    exact fun n hn => ofText_decimalText n (hbytes n hn)
  have hany : a.bytes.dropLast.any (255 < ·) = false := by
    rw [List.any_eq_false]
    intro n hn
    have := hbytes n (List.dropLast_subset _ hn)
    simp
    omega
  have hsum : a.bits % 256 + addBytes 0 a.bytes.dropLast = a.bits := by
    simp [bytes, addBytes]
    omega
  have hlow : ¬256 ^ (4 - a.bytes.dropLast.length) ≤ a.bits % 256 := by
    have : a.bytes.dropLast.length = 3 := rfl
    rw [this]
    omega
  have hlast : a.bytes.getLast? = some (a.bits % 256) := rfl
  have hfour : ¬4 < (a.bytes.map decimalText).length := Nat.lt_irrefl 4
  rw [ofName?_eq, parts_text, if_neg hfour, hnumbers, Option.bind_some, hlast, Option.bind_some,
    if_neg hlow, hany, hsum, if_neg Bool.false_ne_true]

end Ipv4

namespace Ipv6

variable {a : Ipv6} {c : Char} {cs : List Char} {gs : List Nat} {pieces : List (List Char)}

/-- An address as it can be: eight groups of 16 bits. -/
structure IsAddress (a : Ipv6) : Prop where
  length : a.groups.length = 8
  small : ∀ g ∈ a.groups, g < 65536

lemma group?_lt {g : Nat} (h : group? cs = some g) : g < 65536 := by
  unfold group? at h
  split_ifs at h with hrefused
  obtain rfl := Option.some.inj h
  push Not at hrefused
  calc hexValue cs < 16 ^ cs.length := hexValue_lt cs
    _ ≤ 16 ^ 4 := Nat.pow_le_pow_right (by decide) hrefused.2.1
    _ = 65536 := rfl

lemma octet?_lt {n : Nat} (h : Ipv4.octet? cs = some n) : n < 256 := by
  unfold Ipv4.octet? at h
  split_ifs at h with hrefused hsmall
  obtain rfl := Option.some.inj h
  exact hsmall

lemma ofDotted?_lt {v : Ipv4} (h : Ipv4.ofDotted? cs = some v) : v.bits < 2 ^ 32 := by
  unfold Ipv4.ofDotted? at h
  split at h
  · next b₃ b₂ b₁ b₀ hbytes =>
    obtain rfl := Option.some.inj h
    rw [mapM_eq_some_iff] at hbytes
    have hsmall : ∀ n ∈ [b₃, b₂, b₁, b₀], n < 256 := by
      intro n hn
      obtain ⟨piece, -, hpiece⟩ := exists_of_mem_right hbytes hn
      exact octet?_lt hpiece
    simp only [List.forall_mem_cons] at hsmall
    obtain ⟨h₃, h₂, h₁, h₀, -⟩ := hsmall
    change b₃ * 256 ^ 3 + b₂ * 256 ^ 2 + b₁ * 256 + b₀ < 2 ^ 32
    omega
  · cases h

lemma groups?_lt {dotted : Bool} (h : groups? dotted pieces = some gs) :
    ∀ g ∈ gs, g < 65536 := by
  induction pieces generalizing gs with
  | nil =>
    cases h
    simp
  | cons piece pieces ih =>
    cases pieces with
    | nil =>
      rw [groups?] at h
      split at h
      · next g hg =>
        obtain rfl := Option.some.inj h
        simpa using group?_lt hg
      · split_ifs at h
        obtain ⟨v, hv, rfl⟩ := Option.map_eq_some_iff.mp h
        have hbits := ofDotted?_lt hv
        simp only [List.forall_mem_cons, UInt16.size]
        simp
        omega
    | cons next more =>
      rw [groups?, Option.bind_eq_bind, Option.bind_eq_some_iff] at h
      · obtain ⟨g, hg, h⟩ := h
        obtain ⟨rest, hrest, h⟩ := Option.bind_eq_some_iff.mp h
        cases h
        exact List.forall_mem_cons.mpr ⟨group?_lt hg, ih hrest⟩
      · simp

lemma side?_lt {dotted : Bool} (h : side? dotted cs = some gs) : ∀ g ∈ gs, g < 65536 := by
  unfold side? at h
  split_ifs at h
  · cases h
    simp
  · exact groups?_lt h

lemma isAddress_of_ofText? (h : ofText? cs = some a) : a.IsAddress := by
  unfold ofText? at h
  split at h
  · rw [Option.bind_eq_bind, Option.bind_eq_some_iff] at h
    obtain ⟨gs, hgs, h⟩ := h
    split_ifs at h with hlength
    obtain rfl := Option.some.inj h
    exact ⟨hlength, groups?_lt hgs⟩
  · rw [Option.bind_eq_bind, Option.bind_eq_some_iff] at h
    obtain ⟨front, hfront, h⟩ := h
    obtain ⟨back, hback, h⟩ := Option.bind_eq_some_iff.mp h
    split_ifs at h with hlength
    obtain rfl := Option.some.inj h
    refine ⟨?_, fun g hg => ?_⟩
    · simp
      omega
    · simp only [List.mem_append, List.mem_replicate, or_assoc] at hg
      rcases hg with hg | ⟨-, rfl⟩ | hg
      · exact side?_lt hfront g hg
      · decide
      · exact side?_lt hback g hg

lemma group?_hexText {g : Nat} (h : g < 65536) : group? (hexText g) = some g := by
  have hlength : (hexText g).length ≤ 4 :=
    (Nat.length_toDigits_le_iff (by decide) (by decide)).mpr h
  have hdigits : (hexText g).all (fun c => (hexDigit? c).isSome) = true := by
    rw [List.all_eq_true]
    intro c hc
    obtain ⟨d, hd, rfl⟩ := exists_digit_of_mem_hexText hc
    rw [hexDigit?_digitChar d hd]
    rfl
  rw [group?, if_neg, hexValue_hexText]
  simp [hexText_ne_nil, hlength, hdigits]

lemma groups?_hexText (dotted : Bool) (h : ∀ g ∈ gs, g < 65536) :
    groups? dotted (gs.map hexText) = some gs := by
  induction gs with
  | nil => rfl
  | cons g gs ih =>
    obtain ⟨hg, hgs⟩ := List.forall_mem_cons.mp h
    cases gs with
    | nil => rw [List.map_cons, List.map_nil, groups?, group?_hexText hg]
    | cons next more =>
      rw [List.map_cons, groups?, group?_hexText hg, ih hgs]
      · rfl
      · simp

lemma colon_notMem_hexText (g : Nat) : ':' ∉ hexText g := by
  intro h
  have hdigit := isDigit_of_mem_hexText h
  revert hdigit
  unfold IsDigit
  decide

lemma splitAt_groupsText (hne : gs ≠ []) : splitAt ':' (groupsText gs) = gs.map hexText := by
  apply splitAt_joinWith
  · simpa using hne
  · intro piece hpiece
    obtain ⟨g, -, rfl⟩ := List.mem_map.mp hpiece
    exact colon_notMem_hexText g

lemma side?_groupsText (dotted : Bool) (h : ∀ g ∈ gs, g < 65536) :
    side? dotted (groupsText gs) = some gs := by
  unfold side?
  cases gs with
  | nil => rfl
  | cons g gs =>
    have hne : groupsText (g :: gs) ≠ [] := by
      rw [groupsText, List.map_cons, joinWith_cons]
      exact fun h => hexText_ne_nil g (List.append_eq_nil_iff.mp h).1
    rw [if_neg hne, splitAt_groupsText (List.cons_ne_nil _ _), groups?_hexText dotted h]

lemma splitPair_cons (hc : c ≠ ':') (cs : List Char) :
    splitPair (c :: cs) = (splitPair cs).map fun (before, after) => (c :: before, after) := by
  rw [splitPair]
  exact fun _ h _ => hc h

lemma splitPair_colon (hc : c ≠ ':') (cs : List Char) :
    splitPair (':' :: c :: cs) =
      (splitPair (c :: cs)).map fun (before, after) => (':' :: before, after) := by
  rw [splitPair]
  exact fun _ _ h => hc (List.cons.inj h).1

lemma splitPair_append {front : List Char} (h : ':' ∉ front) (cs : List Char) :
    splitPair (front ++ cs) =
      (splitPair cs).map fun (before, after) => (front ++ before, after) := by
  induction front with
  | nil => simp
  | cons c front ih =>
    rw [List.mem_cons, not_or] at h
    rw [List.cons_append, splitPair_cons (Ne.symm h.1), ih h.2, Option.map_map]
    rfl

lemma splitPair_groupsText (gs : List Nat) (cs : List Char) :
    splitPair (groupsText gs ++ cs) =
      (splitPair cs).map fun (before, after) => (groupsText gs ++ before, after) := by
  have hmore : ∀ gs : List Nat, splitPair (continued ':' (gs.map hexText) ++ cs) =
      (splitPair cs).map fun (before, after) =>
        (continued ':' (gs.map hexText) ++ before, after) := by
    intro gs
    induction gs with
    | nil => simp
    | cons g gs ih =>
      -- a group is never written as nothing, so no colon follows the one before it
      obtain ⟨d, ds, hdigits⟩ := List.exists_cons_of_ne_nil (hexText_ne_nil g)
      have hd : d ≠ ':' := fun h => colon_notMem_hexText g (by simp [hdigits, h])
      have hcolon := splitPair_colon hd (ds ++ (continued ':' (gs.map hexText) ++ cs))
      rw [← List.cons_append, ← hdigits, splitPair_append (colon_notMem_hexText g), ih,
        Option.map_map, Option.map_map] at hcolon
      rw [List.map_cons, continued_cons, List.cons_append, List.append_assoc, hcolon]
      simp [Function.comp_def]
  cases gs with
  | nil => simp [groupsText, joinWith]
  | cons g gs =>
    rw [groupsText, List.map_cons, joinWith_cons, List.append_assoc,
      splitPair_append (colon_notMem_hexText g), hmore, Option.map_map]
    simp [Function.comp_def]

lemma longestRun_spec (gs : List Nat) (start : Nat) : ∃ front back,
    gs = front ++ List.replicate (longestRun start gs).2 0 ++ back ∧
      (longestRun start gs).1 = start + front.length := by
  induction gs generalizing start with
  | nil => exact ⟨[], [], rfl, rfl⟩
  | cons g gs ih =>
    rw [longestRun]
    split_ifs with hlater
    · refine ⟨[], (g :: gs).dropWhile (· = 0), ?_, rfl⟩
      have hzeros : (g :: gs).takeWhile (· = 0) = List.replicate (zeroRun (g :: gs)) 0 := by
        rw [List.eq_replicate_iff]
        refine ⟨rfl, fun n hn => ?_⟩
        simpa using List.all_eq_true.mp List.all_takeWhile n hn
      rw [List.nil_append, ← hzeros, List.takeWhile_append_dropWhile]
    · obtain ⟨front, back, hgs, hstart⟩ := ih (start + 1)
      refine ⟨g :: front, back, ?_, ?_⟩
      · rw [List.cons_append, List.cons_append, ← hgs]
      · rw [hstart, List.length_cons]
        omega

lemma text_eq (a : Ipv6) : a.text =
    if (longestRun 0 a.groups).2 < 2 then groupsText a.groups
    else groupsText (a.groups.take (longestRun 0 a.groups).1) ++ ':' :: ':' ::
      groupsText (a.groups.drop ((longestRun 0 a.groups).1 + (longestRun 0 a.groups).2)) := by
  have hpair : ∀ front back : List Char, front ++ [':', ':'] ++ back = front ++ ':' :: ':' :: back :=
    fun _ _ => List.append_assoc _ _ _
  rw [← hpair]
  rfl

theorem ofText?_text (h : a.IsAddress) : ofText? a.text = some a := by
  obtain ⟨hlength, hsmall⟩ := h
  rw [text_eq]
  split_ifs with hrun
  · have hne : a.groups ≠ [] := by
      intro hnil
      rw [hnil] at hlength
      cases hlength
    have hsplit : splitPair (groupsText a.groups) = none := by
      simpa [splitPair] using splitPair_groupsText a.groups []
    unfold ofText?
    rw [hsplit]
    dsimp only
    rw [splitAt_groupsText hne, groups?_hexText true hsmall, Option.bind_eq_bind, Option.bind_some,
      if_pos hlength]
  · obtain ⟨front, back, hgs, hstart⟩ := longestRun_spec a.groups 0
    generalize longestRun 0 a.groups = run at *
    obtain ⟨start, n⟩ := run
    dsimp only at hrun hgs hstart ⊢
    rw [Nat.zero_add] at hstart
    subst hstart
    have htake : a.groups.take front.length = front := by simp [hgs]
    have hdrop : a.groups.drop (front.length + n) = back := by simp [hgs, List.drop_append]
    have hsplit : splitPair (groupsText front ++ ':' :: ':' :: groupsText back) =
        some (groupsText front, groupsText back) := by
      simp [splitPair_groupsText, splitPair]
    have hfront : ∀ g ∈ front, g < 65536 := fun g hg => hsmall g (by simp [hgs, hg])
    have hback : ∀ g ∈ back, g < 65536 := fun g hg => hsmall g (by simp [hgs, hg])
    have hsum : front.length + n + back.length = 8 := by simpa [hgs, Nat.add_assoc] using hlength
    have hfew : front.length + back.length < 8 := by omega
    have hzeros : 8 - front.length - back.length = n := by omega
    rw [htake, hdrop]
    unfold ofText?
    rw [hsplit]
    dsimp only
    rw [side?_groupsText false hfront, side?_groupsText true hback]
    simp only [Option.bind_eq_bind, Option.bind_some, if_pos hfew, hzeros, ← hgs]

lemma isHostChar_of_mem_text (hc : c ∈ a.text) : c = ':' ∨ IsDigit c := by
  have hgroups : ∀ gs : List Nat, c ∈ groupsText gs → c = ':' ∨ IsDigit c := by
    intro gs hc
    rcases mem_joinWith hc with rfl | ⟨piece, hpiece, hc⟩
    · exact .inl rfl
    · obtain ⟨g, -, rfl⟩ := List.mem_map.mp hpiece
      exact .inr (isDigit_of_mem_hexText hc)
  rw [text_eq] at hc
  split_ifs at hc
  · exact hgroups _ hc
  · simp only [List.mem_append, List.mem_cons] at hc
    rcases hc with hc | rfl | rfl | hc
    · exact hgroups _ hc
    · exact .inl rfl
    · exact .inl rfl
    · exact hgroups _ hc

end Ipv6

end HstsPreload.Host
