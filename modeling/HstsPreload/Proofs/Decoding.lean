import HstsPreload.ListSource
import HstsPreload.Proofs.Base64
import HstsPreload.Proofs.Layout
import HstsPreload.Proofs.Padding
import HstsPreload.Proofs.Stores

/-!
# Lists are decoded as they were encoded

A list is published as JSON with lines of comment, in base64 that may be wrapped. Neither written
form of a value breaks a line within a string or begins one with a slash, so the lines of comment
are told from the others; the symbols are no blanks, so the breaks are told from them.
-/

namespace HstsPreload

open HstsPreload.Json HstsPreload.Text

namespace Json

/-! ### The two written forms of a value -/

lemma blank_newline (level : Nat) : Blank (Value.newline level) := by
  unfold Value.newline
  refine blank_cons.mpr ⟨by decide, fun c hc => ?_⟩
  rw [List.eq_of_mem_replicate hc]
  decide

mutual

theorem spells_indented (level : Nat) : ∀ v : Value, Spells v (v.indented level)
  | .null => .null
  | .bool b => .bool b
  | .number n => .number n
  | .string s => .string s
  | .list [] => .list (.nil .nil)
  | .list (v :: more) => by
    have h := Spells.list (spellsItems_indented (level + 1) (List.cons_ne_nil v more)
      (blank_newline level))
    simpa [Value.indented] using h
  | .object [] => .object (.nil .nil)
  | .object (m :: more) => by
    have h := Spells.object (spellsMembers_indented (level + 1) (List.cons_ne_nil m more)
      (blank_newline level))
    simpa [Value.indented] using h

theorem spellsItems_indented (level : Nat) {after : List Char} : ∀ {items : List Value},
    items ≠ [] → Blank after → SpellsItems items (Value.indentedItems level items ++ after)
  | [v], _, ha => by
    have h := SpellsItems.one (blank_newline level) (spells_indented level v) ha
    simpa [Value.indentedItems] using h
  | v :: w :: more, _, ha => by
    have h := SpellsItems.cons (blank_newline level) (spells_indented level v) .nil
      (spellsItems_indented level (List.cons_ne_nil w more) ha)
    simpa [Value.indentedItems] using h

theorem spellsMembers_indented (level : Nat) {after : List Char} :
    ∀ {members : List (String × Value)}, members ≠ [] → Blank after →
      SpellsMembers members (Value.indentedMembers level members ++ after)
  | [(k, v)], _, ha => by
    have hinner : Blank [' '] := by decide
    have h := SpellsMembers.one (k := k) (blank_newline level) .nil hinner
      (spells_indented level v) ha
    simpa [Value.indentedMembers] using h
  | (k, v) :: m :: more, _, ha => by
    have hinner : Blank [' '] := by decide
    have h := SpellsMembers.cons (k := k) (blank_newline level) .nil hinner
      (spells_indented level v) .nil (spellsMembers_indented level (List.cons_ne_nil m more) ha)
    simpa [Value.indentedMembers] using h

end

/-- A character that a line of a written value may begin with, behind its blanks. -/
def Leads (c : Char) : Prop :=
  isBlank c = false ∧ c ≠ '/'

instance (c : Char) : Decidable (Leads c) :=
  inferInstanceAs (Decidable (_ ∧ _))

/-- A text that may stand behind the beginning of a line: where it begins another, that one leads
with neither a blank nor a slash. -/
inductive Flows : List Char → Prop where
  | nil : Flows []
  | char {c : Char} {cs : List Char} : c ≠ '\n' → c ≠ '\r' → Flows cs → Flows (c :: cs)
  | line (level : Nat) {c : Char} {cs : List Char} : Leads c → Flows (c :: cs) →
      Flows (Value.newline level ++ c :: cs)

/-- A text that may stand at the beginning of a line. -/
structure Opens (cs : List Char) : Prop where
  leads : ∃ c rest, cs = c :: rest ∧ Leads c
  flows : Flows cs

section Flow

variable {cs ds : List Char} {c : Char}

lemma Leads.ne (h : Leads c) {d : Char} (hd : isBlank d = true) : c ≠ d := by
  rintro rfl
  rw [h.1] at hd
  cases hd

lemma Flows.append (h : Flows cs) (hd : Flows ds) : Flows (cs ++ ds) := by
  induction h with
  | nil => exact hd
  | char hfeed hreturn _ ih => exact .char hfeed hreturn ih
  | line level hc _ ih =>
    rw [List.append_assoc]
    exact .line level hc ih

lemma Flows.of_forall (h : ∀ c ∈ cs, c ≠ '\n' ∧ c ≠ '\r') : Flows cs := by
  induction cs with
  | nil => exact .nil
  | cons c cs ih =>
    obtain ⟨hc, hcs⟩ := List.forall_mem_cons.mp h
    exact .char hc.1 hc.2 (ih hcs)

lemma Flows.of_all (h : cs.all (fun c => c != '\n' && c != '\r') = true) : Flows cs :=
  .of_forall fun c hc => by simpa using List.all_eq_true.mp h c hc

lemma Flows.lead (h : Flows cs) (hc : Leads c) : Opens (c :: cs) where
  leads := ⟨c, cs, rfl, hc⟩
  flows := .char (hc.ne (by decide)) (hc.ne (by decide)) h

lemma Opens.append (h : Opens cs) (hd : Flows ds) : Opens (cs ++ ds) := by
  obtain ⟨⟨c, rest, rfl, hc⟩, hflows⟩ := h
  exact ⟨⟨c, rest ++ ds, rfl, hc⟩, hflows.append hd⟩

lemma Opens.below (h : Opens cs) (level : Nat) : Flows (Value.newline level ++ cs) := by
  obtain ⟨⟨c, rest, rfl, hc⟩, hflows⟩ := h
  exact .line level hc hflows

end Flow

lemma flows_escapeChar (c : Char) : Flows (escapeChar c) := by
  have hhex : ∀ n < 16, lowerHexDigit n ≠ '\n' ∧ lowerHexDigit n ≠ '\r' := by decide
  unfold escapeChar
  split_ifs with _ _ _ _ hfeed _ hreturn hcontrol
  on_goal 8 =>
    have hhigh := hhex (c.toNat / 16) (by omega)
    have hlow := hhex (c.toNat % 16) (by omega)
    exact .append (.of_all rfl : Flows ['\\', 'u', '0', '0'])
      (.char hhigh.1 hhigh.2 (.char hlow.1 hlow.2 .nil))
  on_goal 8 => exact .char hfeed hreturn .nil
  all_goals exact .of_all rfl

lemma opens_stringText (s : String) : Opens (stringText s) := by
  have hinner : Flows (s.toList.flatMap escapeChar) := by
    induction s.toList with
    | nil => exact .nil
    | cons c cs ih => exact (flows_escapeChar c).append ih
  have hquote : Flows ['"'] := .char (by decide) (by decide) .nil
  exact (hinner.append hquote).lead (by decide)

lemma opens_boolText (b : Bool) : Opens (boolText b) := by
  cases b with
  | true => exact (Flows.of_all rfl).lead (by decide)
  | false => exact (Flows.of_all rfl).lead (by decide)

/-- A character of a written number. -/
def Numeral (c : Char) : Prop :=
  c.isDigit = true ∨ c = '.' ∨ c = '-' ∨ c = 'e'

lemma Numeral.leads {c : Char} (h : Numeral c) : Leads c := by
  rcases h with h | rfl | rfl | rfl
  · rw [Char.isDigit_iff_toNat] at h
    have hlow : 48 ≤ c.toNat := h.1
    have hhigh : c.toNat ≤ 57 := h.2
    constructor
    · simp only [isBlank, Bool.or_eq_false_iff, Bool.and_eq_false_iff, decide_eq_false_iff_not,
        beq_eq_false_iff_ne]
      omega
    · rintro rfl
      exact absurd hlow (by decide)
  all_goals decide

lemma numeral_of_mem_decimalText {n : Nat} : ∀ c ∈ decimalText n, Numeral c :=
  fun _ h => .inl (Nat.isDigit_of_mem_toDigits (by decide) (by decide) h)

/-- A number is written without a blank. -/
def Numerals (cs : List Char) : Prop :=
  cs ≠ [] ∧ ∀ c ∈ cs, Numeral c

lemma numerals_decimalText (n : Nat) : Numerals (decimalText n) :=
  ⟨Nat.toDigits_ne_nil, numeral_of_mem_decimalText⟩

lemma Numerals.append {cs ds : List Char} (h : Numerals cs) (hd : ∀ c ∈ ds, Numeral c) :
    Numerals (cs ++ ds) :=
  ⟨by simp [h.1], List.forall_mem_append.mpr ⟨h.2, hd⟩⟩

lemma Numerals.opens {cs : List Char} (h : Numerals cs) : Opens cs := by
  obtain ⟨hne, hall⟩ := h
  match cs, hne with
  | c :: cs, _ =>
    obtain ⟨hc, hcs⟩ := List.forall_mem_cons.mp hall
    have hflows : Flows cs := .of_forall fun d hd =>
      ⟨(hcs d hd).leads.ne (by decide), (hcs d hd).leads.ne (by decide)⟩
    exact hflows.lead hc.leads

lemma numeral_point : Numeral '.' := .inr (.inl rfl)

lemma numeral_of_mem_zeros {n : Nat} : ∀ c ∈ List.replicate n '0', Numeral c :=
  fun _ h => List.eq_of_mem_replicate h ▸ .inl rfl

lemma numeral_minus : Numeral '-' := .inr (.inr (.inl rfl))

lemma Numerals.pointed {ds : List Char} (h : Numerals ds) (n : Nat) :
    Numerals (ds.take n ++ '.' :: ds.drop n) := by
  refine ⟨by simp, List.forall_mem_append.mpr ⟨fun c hc => ?_, ?_⟩⟩
  · exact h.2 c (List.mem_of_mem_take hc)
  · exact List.forall_mem_cons.mpr ⟨numeral_point, fun c hc => h.2 c (List.mem_of_mem_drop hc)⟩

lemma Numerals.scaled {ds exponent : List Char} : Numerals ds → (∀ c ∈ exponent, Numeral c) →
    Numerals
      (match ds with
      | [d] => d :: 'e' :: exponent
      | d :: more => d :: '.' :: more ++ 'e' :: exponent
      | [] => []) := by
  intro h he
  have hscale : ∀ c ∈ 'e' :: exponent, Numeral c :=
    List.forall_mem_cons.mpr ⟨.inr (.inr (.inr rfl)), he⟩
  match ds, h with
  | [d], h => exact h.append hscale
  | d :: e :: more, h =>
    obtain ⟨hd, hmore⟩ := List.forall_mem_cons.mp h.2
    have hfirst : Numerals [d, '.'] := ⟨by simp, by simp [hd, numeral_point]⟩
    exact (hfirst.append hmore).append hscale
  | [], h => exact (h.1 rfl).elim

lemma numerals_binary64 (x : Binary64) : Numerals x.text := by
  have hzero : Numerals ['0', '.'] := ⟨by decide, by simp [Numeral]⟩
  unfold Binary64.text
  split
  · exact hzero.append (List.forall_mem_singleton.mpr (.inl rfl))
  · have hds := numerals_decimalText x.shortest.1
    dsimp only
    generalize decimalText x.shortest.1 = ds at hds ⊢
    split_ifs
    · exact (hds.append numeral_of_mem_zeros).append (by simp [Numeral])
    · exact hds.pointed _
    · exact (hzero.append numeral_of_mem_zeros).append hds.2
    · exact hds.scaled (List.forall_mem_cons.mpr ⟨numeral_minus, numeral_of_mem_decimalText⟩)
    · exact hds.scaled numeral_of_mem_decimalText

lemma opens_number (n : Number) : Opens n.text := by
  have hminus : Numerals ['-'] := ⟨by decide, by simp [Numeral]⟩
  apply Numerals.opens
  cases n with
  | natural n => exact numerals_decimalText n
  | negative n => exact hminus.append numeral_of_mem_decimalText
  | real minus x =>
    cases minus with
    | true => exact hminus.append (numerals_binary64 x).2
    | false => exact numerals_binary64 x

mutual

theorem opens_compact : ∀ v : Value, Opens v.compact
  | .null => (Flows.of_all rfl).lead (by decide)
  | .bool b => opens_boolText b
  | .number n => opens_number n
  | .string s => opens_stringText s
  | .list items => by
    have hend : Flows [']'] := .of_all rfl
    exact ((flows_compactItems items).append hend).lead (by decide)
  | .object members => by
    have hend : Flows ['\x7d'] := .of_all rfl
    exact ((flows_compactMembers members).append hend).lead (by decide)

theorem flows_compactItems : ∀ items : List Value, Flows (Value.compactItems items)
  | [] => .nil
  | [v] => (opens_compact v).flows
  | v :: w :: more =>
    (opens_compact v).flows.append ((flows_compactItems (w :: more)).lead (by decide)).flows

theorem flows_compactMembers : ∀ members : List (String × Value),
    Flows (Value.compactMembers members)
  | [] => .nil
  | [(k, v)] =>
    (opens_stringText k).flows.append ((opens_compact v).flows.lead (by decide)).flows
  | (k, v) :: m :: more => by
    have hmore := ((flows_compactMembers (m :: more)).lead (c := ',') (by decide)).flows
    have hmember := ((opens_compact v).flows.lead (c := ':') (by decide)).flows
    simpa [Value.compactMembers] using
      ((opens_stringText k).flows.append hmember).append hmore

end

mutual

theorem opens_indented (level : Nat) : ∀ v : Value, Opens (v.indented level)
  | .null => (Flows.of_all rfl).lead (by decide)
  | .bool b => opens_boolText b
  | .number n => opens_number n
  | .string s => opens_stringText s
  | .list [] => (Flows.of_all rfl).lead (by decide)
  | .list (v :: more) => by
    have hend : Opens [']'] := Flows.nil.lead (by decide)
    have hitems := flows_indentedItems (level + 1) (v :: more)
    have h := ((hitems.append (hend.below level)).lead (c := '[') (by decide))
    simpa [Value.indented] using h
  | .object [] => (Flows.of_all rfl).lead (by decide)
  | .object (m :: more) => by
    have hend : Opens ['\x7d'] := Flows.nil.lead (by decide)
    have hmembers := flows_indentedMembers (level + 1) (m :: more)
    have h := ((hmembers.append (hend.below level)).lead (c := '\x7b') (by decide))
    simpa [Value.indented] using h

theorem flows_indentedItems (level : Nat) : ∀ items : List Value,
    Flows (Value.indentedItems level items)
  | [] => .nil
  | [v] => (opens_indented level v).below level
  | v :: w :: more =>
    ((opens_indented level v).below level).append
      ((flows_indentedItems level (w :: more)).lead (by decide)).flows

theorem flows_indentedMembers (level : Nat) : ∀ members : List (String × Value),
    Flows (Value.indentedMembers level members)
  | [] => .nil
  | [(k, v)] => by
    have hvalue : Flows (' ' :: v.indented level) :=
      .char (by decide) (by decide) (opens_indented level v).flows
    exact ((opens_stringText k).below level).append (hvalue.lead (by decide)).flows
  | (k, v) :: m :: more => by
    have hmore := ((flows_indentedMembers level (m :: more)).lead (c := ',') (by decide)).flows
    have hvalue : Flows (' ' :: v.indented level) :=
      .char (by decide) (by decide) (opens_indented level v).flows
    have hmember := (hvalue.lead (c := ':') (by decide)).flows
    simpa [Value.indentedMembers] using
      (((opens_stringText k).below level).append hmember).append hmore

end

end Json

namespace PreloadList

/-! ### Lines of comment -/

/-- A line that holds a comment: blanks, two slashes, and anything but a line feed. -/
structure CommentLine (line : List Char) : Prop where
  slashes : ∃ blanks rest, line = blanks ++ '/' :: '/' :: rest ∧ ∀ c ∈ blanks, isBlank c = true
  unbroken : '\n' ∉ line

/-- A line that is no comment and ends in no carriage return. -/
structure ContentLine (line : List Char) : Prop where
  leads : ∃ blanks c rest, line = blanks ++ c :: rest ∧ (∀ c ∈ blanks, isBlank c = true) ∧ Leads c
  unreturned : '\r' ∉ line

section Lines

variable {line : List Char}

lemma trimStart_append {blanks : List Char} (h : ∀ c ∈ blanks, isBlank c = true) {c : Char}
    (hc : isBlank c = false) (rest : List Char) : trimStart (blanks ++ c :: rest) = c :: rest := by
  rw [trimStart, List.dropWhile_append_of_pos h, List.dropWhile_cons_of_neg (by simp [hc])]

lemma CommentLine.isComment (h : CommentLine line) : isComment line = true := by
  obtain ⟨blanks, rest, rfl, hblanks⟩ := h.slashes
  rw [PreloadList.isComment, trimStart_append hblanks (by decide)]
  rfl

lemma CommentLine.ne_nil (h : CommentLine line) : line ≠ [] := by
  obtain ⟨blanks, rest, rfl, -⟩ := h.slashes
  simp

lemma ContentLine.ne_nil (h : ContentLine line) : line ≠ [] := by
  obtain ⟨blanks, c, rest, rfl, -⟩ := h.leads
  simp

lemma ContentLine.isComment (h : ContentLine line) : isComment line = false := by
  obtain ⟨blanks, c, rest, rfl, hblanks, hblank, hslash⟩ := h.leads
  rw [PreloadList.isComment, trimStart_append hblanks hblank]
  cases rest <;> simp [hslash]

lemma ContentLine.stripEnd (h : ContentLine line) : stripEnd '\r' line = line :=
  stripEnd_of_getLast?_ne fun hlast => h.unreturned (List.mem_of_getLast? hlast)

end Lines

lemma splitAt_append_of_not_mem {sep : Char} {start cs first : List Char}
    {more : List (List Char)} (h : sep ∉ start) (hsplit : splitAt sep cs = first :: more) :
    splitAt sep (start ++ cs) = (start ++ first) :: more := by
  induction start with
  | nil => exact hsplit
  | cons d start ih =>
    rw [List.mem_cons, not_or] at h
    rw [List.cons_append, splitAt, if_neg (Ne.symm h.1), ih h.2]
    rfl

/-- Where a text flows on, what follows each of its line feeds is a line of content. -/
lemma exists_splitAt_of_flows {cs : List Char} (h : Flows cs) : ∃ first more,
    splitAt '\n' cs = first :: more ∧ '\r' ∉ first ∧ ∀ line ∈ more, ContentLine line := by
  induction h with
  | nil => exact ⟨[], [], rfl, by simp, by simp⟩
  | @char c cs hfeed hreturn _ ih =>
    obtain ⟨first, more, hsplit, hfirst, hmore⟩ := ih
    refine ⟨c :: first, more, ?_, by simp [hreturn.symm, hfirst], hmore⟩
    rw [splitAt, if_neg hfeed, hsplit]
  | @line level c cs hc _ ih =>
    obtain ⟨first, more, hsplit, hfirst, hmore⟩ := ih
    have hspaces : ∀ d ∈ List.replicate (2 * level) ' ', d = ' ' :=
      fun d hd => List.eq_of_mem_replicate hd
    have hunbroken : '\n' ∉ List.replicate (2 * level) ' ' :=
      fun hd => absurd (hspaces _ hd) (by decide)
    have hunreturned : '\r' ∉ List.replicate (2 * level) ' ' ++ first := by
      rw [List.mem_append, not_or]
      exact ⟨fun hd => absurd (hspaces _ hd) (by decide), hfirst⟩
    -- the line that begins here is the indentation with the first piece behind it
    have hline : ContentLine (List.replicate (2 * level) ' ' ++ first) := by
      obtain ⟨piece, pieces, hpieces⟩ := List.exists_cons_of_ne_nil (splitAt_ne_nil '\n' cs)
      have hlead : '\n' ∉ [c] := by simpa using (hc.ne (by decide)).symm
      have hcons := splitAt_append_of_not_mem hlead hpieces
      rw [List.singleton_append, hsplit, List.cons.injEq] at hcons
      refine ⟨⟨_, c, piece, congrArg _ hcons.1, fun d hd => ?_, hc⟩, hunreturned⟩
      rw [hspaces d hd]
      decide
    refine ⟨[], _, ?_, by simp, List.forall_mem_cons.mpr ⟨hline, hmore⟩⟩
    rw [Value.newline, List.cons_append, splitAt, if_pos rfl,
      splitAt_append_of_not_mem hunbroken hsplit]

lemma content_of_opens {cs : List Char} (h : Opens cs) :
    ∀ line ∈ splitAt '\n' cs, ContentLine line := by
  -- as what follows a line feed
  obtain ⟨first, more, hsplit, -, hmore⟩ := exists_splitAt_of_flows (h.below 0)
  have hbelow : splitAt '\n' (Value.newline 0 ++ cs) = [] :: splitAt '\n' cs := rfl
  rw [hbelow, List.cons.injEq] at hsplit
  rwa [hsplit.2]

/-- The lines that a reader of the list goes on with. -/
def shown (ls : List (List Char)) : List (List Char) :=
  ls.filter fun line => !isComment line

/-- A line that is a comment or ends in no carriage return. -/
def Tame (line : List Char) : Prop :=
  isComment line = true ∨ stripEnd '\r' line = line

lemma shown_stripEnd_cons {line : List Char} {ls ms : List (List Char)} (h : Tame line)
    (hmore : shown ls = shown ms) : shown (stripEnd '\r' line :: ls) = shown (line :: ms) := by
  rcases h with hcomment | hstrip
  · have hstripped := ListText.isComment_stripEnd hcomment
    simpa [shown, hcomment, hstripped] using hmore
  · rw [hstrip]
    by_cases hcomment : isComment line = true
    · simpa [shown, hcomment] using hmore
    · simpa [shown, hcomment] using hmore

lemma shown_map_stripEnd {ls : List (List Char)} (h : ∀ line ∈ ls, Tame line) :
    shown (ls.map (stripEnd '\r')) = shown ls := by
  induction ls with
  | nil => rfl
  | cons line more ih =>
    obtain ⟨hline, hmore⟩ := List.forall_mem_cons.mp h
    exact shown_stripEnd_cons hline (ih hmore)

lemma shown_closeLines : ∀ {ls : List (List Char)}, (∀ line ∈ ls, line ≠ [] ∧ Tame line) →
    shown (closeLines ls) = shown ls
  | [], _ => rfl
  | [last], h => by
    rw [closeLines, if_neg (h last List.mem_cons_self).1]
  | line :: next :: more, h => by
    obtain ⟨hline, hmore⟩ := List.forall_mem_cons.mp h
    exact shown_stripEnd_cons hline.2 (shown_closeLines hmore)

/-- A reader goes on with the lines of content, whether or not the last line is closed. -/
lemma withoutComments_linesText {content ls : List (List Char)}
    (h : Padded CommentLine content ls) (hne : content ≠ [])
    (hc : ∀ line ∈ content, ContentLine line ∧ '\n' ∉ line) (closed : Bool) :
    withoutComments (.ofList (linesText closed ls)) = .ofList (joinWith '\n' content) := by
  have hunbroken : ∀ line ∈ ls, '\n' ∉ line :=
    h.forall_mem (fun line hl => (hc line hl).2) fun line hl => hl.unbroken
  have htame : ∀ line ∈ ls, line ≠ [] ∧ Tame line := by
    refine h.forall_mem (fun line hl => ?_) fun line hl => ⟨hl.ne_nil, .inl hl.isComment⟩
    obtain ⟨hcontent, -⟩ := hc line hl
    exact ⟨hcontent.ne_nil, .inr hcontent.stripEnd⟩
  have hshown : shown ls = content :=
    h.filter_eq (fun line hl => by simp [(hc line hl).1.isComment])
      fun line hl => by simp [hl.isComment]
  have hlines : shown (lines (linesText closed ls)) = shown ls := by
    have hls : ls ≠ [] := by
      rintro rfl
      exact hne hshown.symm
    cases closed with
    | false =>
      rw [linesText, if_neg Bool.false_ne_true, List.append_nil, lines,
        splitAt_joinWith hls hunbroken, shown_closeLines htame]
    | true =>
      have hall : ∀ line ∈ ls ++ [[]], '\n' ∉ line :=
        List.forall_mem_append.mpr ⟨hunbroken, by simp⟩
      rw [linesText, if_pos rfl, lines, ← joinWith_concat_nil hls,
        splitAt_joinWith (by simp) hall, closeLines_concat_nil,
        shown_map_stripEnd fun line hl => (htame line hl).2]
  rw [withoutComments, String.toList_ofList]
  change String.ofList (joinWith '\n' (shown (lines (linesText closed ls)))) = _
  rw [hlines, hshown]

/-- A character at which an encoded text is wrapped. -/
def Wraps (c : Char) : Prop :=
  c = ' ' ∨ c = '\t' ∨ c = '\n' ∨ c = '\x0c' ∨ c = '\r'

/-- A list written in either form, with any lines of comment before, between and behind its lines,
and with any breaks within its symbols, is decoded as it was. -/
theorem decode_of_written {l : PreloadList} (hp : ∀ e ∈ l.entries, ∃ tag, e.policy = .ofText tag)
    {written : String} (hw : written = l.toJson.render ∨ written = l.toJson.renderIndented)
    {ls : List (List Char)} (hls : Padded CommentLine (splitAt '\n' written.toList) ls)
    (closed : Bool) {body : String}
    (hbody : Padded Wraps (Base64.encode (Utf8.encode (linesText closed ls))) body.toList) :
    decode body = .ok l := by
  have hproper : ∀ e ∈ l.entries, e.policy.Proper := by
    intro e he
    obtain ⟨tag, htag⟩ := hp e he
    rw [htag, Policy.Proper, Policy.text_ofText]
  have hspells : Spells l.toJson written.toList ∧ Opens written.toList := by
    rcases hw with rfl | rfl
    · rw [Value.render, String.toList_ofList]
      exact ⟨spells_compact _, opens_compact _⟩
    · rw [Value.renderIndented, String.toList_ofList]
      exact ⟨spells_indented 0 _, opens_indented 0 _⟩
  have hsymbols : body.toList.filter (fun c => !isAsciiBlank c) =
      Base64.encode (Utf8.encode (linesText closed ls)) := by
    refine hbody.filter_eq (Base64.forall_encode (by decide) (by decide) _) fun c hc => ?_
    rcases hc with rfl | rfl | rfl | rfl | rfl <;> rfl
  have hcontent : ∀ line ∈ splitAt '\n' written.toList, ContentLine line ∧ '\n' ∉ line :=
    fun line hl => ⟨content_of_opens hspells.2 line hl, not_mem_of_mem_splitAt hl⟩
  have htext : withoutComments (.ofList (linesText closed ls)) = .ofList written.toList := by
    rw [withoutComments_linesText hls (splitAt_ne_nil _ _) hcontent closed, joinWith_splitAt]
  have hread := readAll_of_reads (PreloadList.reads hproper hspells.1) .nil .nil
  rw [List.nil_append, List.append_nil, ← htext] at hread
  unfold decode
  dsimp only
  rw [hsymbols, Base64.decode_encode]
  dsimp only [Except.mapError, bind, Except.bind]
  rw [Utf8.decode_encode]
  dsimp only [Except.mapError]
  rw [parse, hread]

/-- A list with a name that holds what the layers around it use for themselves. -/
def odd : PreloadList :=
  ⟨[⟨"// \"a\"\n=b.example\r", .ofText "custom//", .forceHttps, true⟩,
    ⟨"", .test, .unspecified, false⟩]⟩

theorem decode_odd :
    let content := splitAt '\n' odd.toJson.renderIndented.toList
    let ls := content.take 2 ++ "\t// a\r".toList :: (content.drop 2 ++ ["//".toList])
    let symbols := Base64.encode (Utf8.encode (linesText true ls))
    decode (.ofList (symbols.take 64 ++ '\n' :: (symbols.drop 64 ++ ['\n']))) = .ok odd := by
  intro content ls symbols
  have hfirst : CommentLine "\t// a\r".toList :=
    ⟨⟨['\t'], [' ', 'a', '\r'], rfl, List.forall_mem_singleton.mpr rfl⟩, by decide⟩
  have hlast : CommentLine "//".toList := ⟨⟨[], [], rfl, by simp⟩, by decide⟩
  have hfeed : Wraps '\n' := .inr (.inr (.inl rfl))
  have hp : ∀ e ∈ odd.entries, ∃ tag, e.policy = .ofText tag :=
    List.forall_mem_cons.mpr ⟨⟨"custom//", rfl⟩, List.forall_mem_singleton.mpr ⟨"test", rfl⟩⟩
  have hls : Padded CommentLine content ls := Padded.twice hfirst hlast 2 content
  have hbody : Padded Wraps symbols
      (String.ofList (symbols.take 64 ++ '\n' :: (symbols.drop 64 ++ ['\n']))).toList := by
    rw [String.toList_ofList]
    exact Padded.twice hfeed hfeed 64 symbols
  exact decode_of_written hp (.inr rfl) hls true hbody

end PreloadList

end HstsPreload
