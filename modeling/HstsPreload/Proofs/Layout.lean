import HstsPreload.Proofs.Lines
import HstsPreload.Proofs.Spelling

/-!
# Editing a list that is laid out line by line

The editor goes by the look of a line and the reader by its JSON. On a list with one entry to a line
they agree: after an edit the reader finds the entries that were not taken off and, above the line
that closes the bulk section, those that were added.
-/

namespace HstsPreload

open HstsPreload.Json HstsPreload.Text

namespace Json

/-- Members of an object with a gap after each brace, colon and comma. -/
def spacedMembers (gap : List Char) : List (String × Value) → List Char
  | [] => []
  | [(k, v)] => gap ++ (stringText k ++ ':' :: (gap ++ (v.compact ++ gap)))
  | (k, v) :: m :: more =>
    gap ++ (stringText k ++ ':' :: (gap ++ (v.compact ++ ',' :: spacedMembers gap (m :: more))))

def spacedObject (gap : List Char) (members : List (String × Value)) : List Char :=
  '\x7b' :: (spacedMembers gap members ++ ['\x7d'])

lemma compactMembers_eq (members : List (String × Value)) :
    Value.compactMembers members = spacedMembers [] members := by
  induction members with
  | nil => rfl
  | cons m more ih =>
    cases more with
    | nil => simp [Value.compactMembers, spacedMembers]
    | cons next rest =>
      rw [Value.compactMembers, ih, spacedMembers]
      simp

lemma compact_object (members : List (String × Value)) :
    (Value.object members).compact = spacedObject [] members := by
  rw [Value.compact, compactMembers_eq, spacedObject, List.cons_append]

lemma spellsMembers_spaced {gap : List Char} (h : Blank gap) : ∀ members : List (String × Value),
    members ≠ [] → SpellsMembers members (spacedMembers gap members)
  | [(k, v)], _ => .one h .nil h (spells_compact v) h
  | (k, v) :: m :: more, _ =>
    .cons h .nil h (spells_compact v) .nil (spellsMembers_spaced h (m :: more) (by simp))

lemma forall_spacedMembers {P : Char → Prop} {gap : List Char} (hgap : ∀ c ∈ gap, P c)
    (hcolon : P ':') (hcomma : P ',') : ∀ members : List (String × Value),
    (∀ m ∈ members, (∀ c ∈ stringText m.1, P c) ∧ ∀ c ∈ m.2.compact, P c) →
    ∀ c ∈ spacedMembers gap members, P c
  | [], _, c, hc => by simp [spacedMembers] at hc
  | [(k, v)], h, c, hc => by
    obtain ⟨hk, hv⟩ := h (k, v) (by simp)
    simp only [spacedMembers, List.mem_append, List.mem_cons] at hc
    rcases hc with hc | hc | rfl | hc | hc | hc
    · exact hgap c hc
    · exact hk c hc
    · exact hcolon
    · exact hgap c hc
    · exact hv c hc
    · exact hgap c hc
  | (k, v) :: m :: more, h, c, hc => by
    obtain ⟨hk, hv⟩ := h (k, v) (by simp)
    have hmore := forall_spacedMembers hgap hcolon hcomma (m :: more)
      fun m hm => h m (List.mem_cons_of_mem _ hm)
    rw [spacedMembers] at hc
    simp only [List.mem_append, List.mem_cons] at hc
    rcases hc with hc | hc | rfl | hc | hc | rfl | hc
    · exact hgap c hc
    · exact hk c hc
    · exact hcolon
    · exact hgap c hc
    · exact hv c hc
    · exact hcomma
    · exact hmore c hc

/-- A text that stands between quotation marks as it is. -/
def Verbatim (s : String) : Prop :=
  ∀ c ∈ s.toList, escapeChar c = [c]

instance (s : String) : Decidable (Verbatim s) :=
  List.decidableBAll _ s.toList

lemma flatMap_escapeChar {cs : List Char} (h : ∀ c ∈ cs, escapeChar c = [c]) :
    cs.flatMap escapeChar = cs := by
  induction cs with
  | nil => rfl
  | cons c cs ih =>
    have hc : escapeChar c = [c] := h c List.mem_cons_self
    rw [List.flatMap_cons, hc, ih fun d hd => h d (List.mem_cons_of_mem _ hd)]
    rfl

lemma Verbatim.stringText_eq {s : String} (h : Verbatim s) :
    stringText s = '"' :: (s.toList ++ ['"']) := by
  rw [stringText, List.cons_append, flatMap_escapeChar h]

end Json

/-- Names and tags of ASCII letters, digits, dots and hyphens. -/
def Plain (s : String) : Prop :=
  s ≠ "" ∧ ∀ c ∈ s.toList, c.isAlphanum = true ∨ c = '.' ∨ c = '-'

instance (s : String) : Decidable (Plain s) :=
  @instDecidableAnd _ _ _ (List.decidableBAll _ s.toList)

lemma Plain.char {s : String} (h : Plain s) {c : Char} (hc : c ∈ s.toList) :
    45 ≤ c.toNat ∧ c ≠ '\\' ∧ c ≠ '\x7d' := by
  rcases h.2 c hc with halpha | rfl | rfl
  · change ((decide (65 ≤ c.val ∧ c.val ≤ 90)
      || decide (97 ≤ c.val) && decide (c.val ≤ 122))
      || decide (48 ≤ c.val) && decide (c.val ≤ 57)) = true at halpha
    simp only [Bool.or_eq_true, Bool.and_eq_true, decide_eq_true_eq,
      UInt32.le_iff_toNat_le] at halpha
    change ((65 ≤ c.toNat ∧ c.toNat ≤ 90) ∨ (97 ≤ c.toNat ∧ c.toNat ≤ 122)) ∨
      (48 ≤ c.toNat ∧ c.toNat ≤ 57) at halpha
    have hslash : c ≠ '\\' := by
      rintro rfl
      exact absurd halpha (by decide)
    have hbrace : c ≠ '\x7d' := by
      rintro rfl
      exact absurd halpha (by decide)
    exact ⟨by omega, hslash, hbrace⟩
  · decide
  · decide

lemma Plain.verbatim {s : String} (h : Plain s) : Verbatim s := by
  intro c hc
  obtain ⟨hlow, hslash, -⟩ := h.char hc
  have hquote : c ≠ '"' := by rintro rfl; exact absurd hlow (by decide)
  have htab : c ≠ '\t' := by rintro rfl; exact absurd hlow (by decide)
  have hfeed : c ≠ '\n' := by rintro rfl; exact absurd hlow (by decide)
  have hreturn : c ≠ '\r' := by rintro rfl; exact absurd hlow (by decide)
  rw [escapeChar, if_neg hquote, if_neg hslash, if_neg (by omega), if_neg htab, if_neg hfeed,
    if_neg (by omega), if_neg hreturn, if_neg (by omega)]

/-! ### Lines that hold an entry -/

namespace Entry

def members (e : Entry) : List (String × Value) :=
  [("name", .string e.name)] ++ e.policy.member ++ e.mode.member
    ++ [("include_subdomains", .bool e.includeSubdomains)]

lemma spells_spacedObject (e : Entry) {gap : List Char} (h : Blank gap) :
    Spells e.toJson (spacedObject gap e.members) :=
  .object (spellsMembers_spaced h e.members (by simp [members]))

def addition (name : String) : Entry :=
  ⟨name, .bulk1Year, .forceHttps, true⟩

end Entry

namespace ListText

lemma closesEntry_append (cs rest : List Char) :
    closesEntry (cs ++ '\x7d' :: ',' :: rest) = true := by
  induction cs with
  | nil => rfl
  | cons c cs ih => rw [List.cons_append, closesEntry, ih, Bool.or_true]

lemma closesEntry_concat {cs : List Char} (h : '\x7d' ∉ cs) :
    closesEntry (cs ++ ['\x7d']) = false := by
  induction cs with
  | nil => rfl
  | cons c cs ih =>
    have hc : c ≠ '\x7d' := fun e => h (e ▸ List.mem_cons_self)
    have hcs : '\x7d' ∉ cs := fun hm => h (List.mem_cons_of_mem _ hm)
    rw [List.cons_append, closesEntry, ih hcs]
    simp [hc]

lemma exists_of_isEntry {line : List Char} (h : isEntry line = true) :
    ∃ rest, line = ' ' :: ' ' :: ' ' :: ' ' :: '\x7b' :: rest := by
  rw [isEntry, Bool.and_eq_true, beq_iff_eq] at h
  have hsplit := List.take_append_drop 5 line
  rw [h.1] at hsplit
  exact ⟨_, hsplit.symm⟩

/-- A line for an object: four spaces, the object and a comma, which the last line has not. -/
def objectLine (comma : Bool) (object : List Char) : List Char :=
  [' ', ' ', ' ', ' '] ++ (object ++ if comma then [','] else [])

lemma kind_objectLine (inner : List Char) :
    kind (objectLine true ('\x7b' :: (inner ++ ['\x7d']))) = .entry := by
  have hentry : isEntry (objectLine true ('\x7b' :: (inner ++ ['\x7d']))) = true := by
    have hcloses := closesEntry_append inner []
    simpa [isEntry, objectLine] using hcloses
  have hcomment : isComment (objectLine true ('\x7b' :: (inner ++ ['\x7d']))) = false := rfl
  rw [kind, hcomment, if_neg (by simp), hentry, if_pos rfl]

lemma kind_objectLine_last {inner : List Char} (h : '\x7d' ∉ inner) :
    kind (objectLine false ('\x7b' :: (inner ++ ['\x7d']))) = .other := by
  have hentry : isEntry (objectLine false ('\x7b' :: (inner ++ ['\x7d']))) = false := by
    have hcloses := closesEntry_concat h
    simpa [isEntry, objectLine] using hcloses
  have hcomment : isComment (objectLine false ('\x7b' :: (inner ++ ['\x7d']))) = false := rfl
  rw [kind, hcomment, if_neg (by simp), hentry, if_neg (by simp)]

lemma entryOf_objectLine {object : List Char} {e : Entry} (h : Reads Entry.read object e) :
    entryOf (objectLine true object) = .ok e := by
  have hstrip : stripEnd ',' (objectLine true object) = [' ', ' ', ' ', ' '] ++ (object ++ []) := by
    rw [objectLine, if_pos rfl, ← List.append_assoc, stripEnd_concat, List.append_nil]
  have hparse : readAll Entry.read (.ofList ([' ', ' ', ' ', ' '] ++ (object ++ []))) = .ok e :=
    readAll_of_reads h (by decide) .nil
  rw [entryOf, hstrip, Entry.parse, hparse]
  rfl

lemma additionLine_eq {name : String} (h : Verbatim name) :
    additionLine name = objectLine true (spacedObject [' '] (Entry.addition name).members) := by
  have hname : (Value.string name).compact = '"' :: (name.toList ++ ['"']) := h.stringText_eq
  have hmembers : (Entry.addition name).members = [("name", .string name),
    ("policy", .string "bulk-1-year"), ("mode", .string "force-https"),
    ("include_subdomains", .bool true)] := rfl
  simp only [additionLine, String.toList_append, objectLine, spacedObject, hmembers, spacedMembers,
    hname, List.append_assoc, List.cons_append]
  rfl

/-! ### Lists with one entry to a line -/

/-- A line beside the entries: a comment other than the sentinel, or nothing but blanks. -/
structure Filler where
  line : List Char
  unbroken : '\n' ∉ line
  inert : line ≠ sentinel
  hidden : PreloadList.isComment line = true ∨ Blank line

/-- An entry that a line can hold, compact or with a blank after each brace, colon and comma. -/
structure Listed where
  entry : Entry
  wide : Bool
  name_plain : Plain entry.name
  policy_plain : entry.policy = .unspecified ∨ Plain entry.policy.text
  policy_proper : entry.policy.Proper

def Listed.object (r : Listed) : List Char :=
  if r.wide then spacedObject [' '] r.entry.members else r.entry.toJson.compact

/-- A line of the list apart from those around the entries. -/
inductive Row where
  | filler (f : Filler)
  | entry (r : Listed)

def Row.line : Row → List Char
  | .filler f => f.line
  | .entry r => objectLine true r.object

def Row.entry? : Row → Option Entry
  | .filler _ => none
  | .entry r => some r.entry

/-- A list as it is laid out: the rows above and below the sentinel, the last entry, and what stands
around them. -/
structure Layout where
  head : List Filler
  opening : List Filler
  above : List Row
  below : List Row
  last : Listed
  closing : List Filler
  tail : List Filler

namespace Layout

def body (L : Layout) : List (List Char) :=
  L.head.map Filler.line ++ ['\x7b'] :: (L.opening.map Filler.line
    ++ "  \"entries\": [".toList :: (L.above.map Row.line
      ++ sentinel :: (L.below.map Row.line
        ++ objectLine false L.last.object :: (L.closing.map Filler.line
          ++ [' ', ' ', ']'] :: L.tail.map Filler.line))))

/-- The text of a list, with or without a line feed at its end. -/
def text (L : Layout) (closed : Bool) : String :=
  .ofList (linesText closed (L.body ++ [['\x7d']]))

def entriesAbove (L : Layout) : List Entry :=
  L.above.filterMap Row.entry?

def entriesBelow (L : Layout) : List Entry :=
  L.below.filterMap Row.entry?

def entries (L : Layout) : List Entry :=
  L.entriesAbove ++ L.entriesBelow ++ [L.last.entry]

end Layout

namespace Listed

variable (r : Listed)

lemma object_eq : r.object = spacedObject (if r.wide then [' '] else []) r.entry.members := by
  unfold object
  split_ifs
  · rfl
  · exact compact_object _

lemma spells : Spells r.entry.toJson r.object := by
  rw [object_eq]
  refine r.entry.spells_spacedObject ?_
  split_ifs <;> decide

lemma reads : Reads Entry.read r.object r.entry :=
  Entry.reads r.policy_proper r.spells

def Inner (cs : List Char) : Prop :=
  ∀ c ∈ cs, c ≠ '\n' ∧ c ≠ '\x7d'

instance (cs : List Char) : Decidable (Inner cs) :=
  List.decidableBAll _ cs

lemma inner_stringText {s : String} (h : Plain s) : Inner (stringText s) := by
  intro c hc
  rw [h.verbatim.stringText_eq] at hc
  simp only [List.mem_cons, List.mem_append, List.not_mem_nil, or_false] at hc
  rcases hc with rfl | hc | rfl
  · exact ⟨by decide, by decide⟩
  · obtain ⟨hlow, -, hbrace⟩ := h.char hc
    exact ⟨fun e => absurd (e ▸ hlow) (by decide), hbrace⟩
  · exact ⟨by decide, by decide⟩

lemma inner_members : ∀ m ∈ r.entry.members, Inner (stringText m.1) ∧ Inner m.2.compact := by
  have hkeys : ∀ k ∈ ["name", "policy", "mode", "include_subdomains"], Inner (stringText k) := by
    decide
  intro m hm
  simp only [Entry.members, List.mem_append, List.mem_singleton] at hm
  rcases hm with ((rfl | hm) | hm) | rfl
  · exact ⟨hkeys "name" (by simp), inner_stringText r.name_plain⟩
  · unfold Policy.member at hm
    split_ifs at hm with hp
    · simp at hm
    · rw [List.mem_singleton.mp hm]
      exact ⟨hkeys "policy" (by simp), inner_stringText (r.policy_plain.resolve_left hp)⟩
  · unfold Mode.member at hm
    split_ifs at hm with hp
    · simp at hm
    · rw [List.mem_singleton.mp hm]
      refine ⟨hkeys "mode" (by simp), ?_⟩
      cases r.entry.mode <;> decide
  · refine ⟨hkeys "include_subdomains" (by simp), ?_⟩
    cases r.entry.includeSubdomains <;> decide

lemma exists_inner : ∃ inner, r.object = '\x7b' :: (inner ++ ['\x7d']) ∧ Inner inner := by
  refine ⟨_, r.object_eq, ?_⟩
  refine forall_spacedMembers ?_ ⟨by decide, by decide⟩ ⟨by decide, by decide⟩ _ r.inner_members
  split_ifs
  · simp
  · simp

lemma getLast?_objectLine (comma : Bool) :
    (objectLine comma r.object).getLast? ≠ some '\r' := by
  obtain ⟨inner, hobject, -⟩ := r.exists_inner
  rw [objectLine, hobject]
  cases comma <;> simp [List.getLast?_append, List.getLast?_cons]

lemma isComment_objectLine (comma : Bool) :
    PreloadList.isComment (objectLine comma r.object) = false := by
  obtain ⟨inner, hobject, -⟩ := r.exists_inner
  rw [objectLine, hobject]
  rfl

lemma unbroken_objectLine (comma : Bool) : '\n' ∉ objectLine comma r.object := by
  obtain ⟨inner, hobject, hinner⟩ := r.exists_inner
  have hfeed : '\n' ∉ inner := fun h => (hinner _ h).1 rfl
  rw [objectLine, hobject]
  cases comma <;> simp [hfeed]

def addition (name : String) (h : Plain name) : Listed :=
  have htag : Plain Policy.bulk1Year.text := by decide
  ⟨.addition name, true, h, .inr htag, rfl⟩

lemma objectLine_addition {name : String} (h : Plain name) :
    objectLine true (addition name h).object = additionLine name :=
  (additionLine_eq h.verbatim).symm

end Listed

/-! ### The edit -/

lemma Filler.kind_line (f : Filler) : kind f.line = .other := by
  have hentry : isEntry f.line = false := by
    rw [Bool.eq_false_iff]
    intro h
    obtain ⟨rest, hline⟩ := exists_of_isEntry h
    rcases f.hidden with hc | hb
    · rw [hline] at hc
      exact absurd hc (by simp [PreloadList.isComment, trimStart, isBlank])
    · rw [hline] at hb
      exact absurd (hb '\x7b' (by simp)) (by decide)
  by_cases hc : isComment f.line = true
  · rw [kind, if_pos hc, if_neg f.inert]
  · rw [kind, if_neg hc, hentry, if_neg Bool.false_ne_true]

/-- Whether lines become others when changes are made. -/
def Edits (changes : PendingChanges) (ls ls' : List (List Char)) : Prop :=
  ∃ written, ls.mapM (editLine changes) = .ok written ∧ written.flatMap Written.lines = ls'

namespace Edits

variable {changes : PendingChanges} {ls ls' ms ms' : List (List Char)}

lemma nil : Edits changes [] [] :=
  ⟨[], rfl, rfl⟩

lemma cons {line : List Char} {w : Written} (hw : editLine changes line = .ok w)
    (h : Edits changes ls ls') : Edits changes (line :: ls) (w.lines ++ ls') := by
  obtain ⟨written, hm, rfl⟩ := h
  refine ⟨w :: written, ?_, List.flatMap_cons⟩
  rw [List.mapM_cons, hw, hm]
  rfl

lemma append (h : Edits changes ls ls') (h' : Edits changes ms ms') :
    Edits changes (ls ++ ms) (ls' ++ ms') := by
  obtain ⟨written, hm, rfl⟩ := h
  obtain ⟨written', hm', rfl⟩ := h'
  refine ⟨written ++ written', ?_, List.flatMap_append⟩
  rw [List.mapM_append, hm, hm']
  rfl

lemma other {line : List Char} (hk : kind line = .other) (h : Edits changes ls ls') :
    Edits changes (line :: ls) (line :: ls') := by
  have hw : editLine changes line = .ok ⟨[line], []⟩ := by rw [editLine, hk]
  exact cons hw h

lemma fillers (changes : PendingChanges) (fs : List Filler) :
    Edits changes (fs.map Filler.line) (fs.map Filler.line) := by
  induction fs with
  | nil => exact nil
  | cons f fs ih => exact other f.kind_line ih

theorem update_eq {contents : String} (h : Edits changes (linesOf contents) ls') :
    ∃ duplicates, update contents changes = .ok ⟨ofLines ls', duplicates⟩ := by
  obtain ⟨written, hm, rfl⟩ := h
  refine ⟨repeated (written.flatMap Written.names), ?_⟩
  rw [update, hm]
  rfl

end Edits

def Row.kept (changes : PendingChanges) : Row → Bool
  | .filler _ => true
  | .entry r => !changes.removes r.entry.name

lemma edits_rows (changes : PendingChanges) (rows : List Row) :
    Edits changes (rows.map Row.line) ((rows.filter (Row.kept changes)).map Row.line) := by
  induction rows with
  | nil => exact .nil
  | cons row rows ih =>
    cases row with
    | filler f => exact .other f.kind_line ih
    | entry r =>
      obtain ⟨inner, hobject, -⟩ := r.exists_inner
      have hkind : kind (objectLine true r.object) = .entry := hobject ▸ kind_objectLine inner
      have hentry := entryOf_objectLine r.reads
      by_cases hr : changes.removes r.entry.name = true
      · have hw : editLine changes (objectLine true r.object) = .ok {} := by
          simp [editLine, hkind, hentry, hr, bind, Except.bind, pure, Except.pure]
        have hkept : Row.kept changes (.entry r) = false := by simp [Row.kept, hr]
        rw [List.filter_cons_of_neg (by simp [hkept])]
        exact .cons hw ih
      · have hw : editLine changes (objectLine true r.object) =
            .ok ⟨[objectLine true r.object], [r.entry.name]⟩ := by
          simp [editLine, hkind, hentry, hr, bind, Except.bind, pure, Except.pure]
        have hkept : Row.kept changes (.entry r) = true := by simp [Row.kept, hr]
        rw [List.filter_cons_of_pos hkept]
        exact .cons hw ih

def Row.added (name : String) (h : Plain name) : Row :=
  .entry (.addition name h)

lemma map_added {names : List String} (plain : ∀ name ∈ names, Plain name) :
    (names.pmap Row.added plain).map Row.line = names.map additionLine := by
  rw [List.map_pmap, ← List.pmap_eq_map plain]
  exact List.pmap_congr_left _ fun name _ h _ => Listed.objectLine_addition h

lemma filterMap_added {names : List String} (plain : ∀ name ∈ names, Plain name) :
    (names.pmap Row.added plain).filterMap Row.entry? = names.map Entry.addition := by
  induction names with
  | nil => rfl
  | cons name names ih =>
    have hmore := ih fun n hn => plain n (List.mem_cons_of_mem _ hn)
    exact congrArg (Entry.addition name :: ·) hmore

namespace Layout

def edit (L : Layout) (changes : PendingChanges) (plain : ∀ name ∈ changes.additions, Plain name) :
    Layout :=
  { L with
    above := L.above.filter (Row.kept changes)
      ++ changes.additions.pmap Row.added plain
    below := L.below.filter (Row.kept changes) }

lemma edits_body (L : Layout) {changes : PendingChanges}
    (plain : ∀ name ∈ changes.additions, Plain name) :
    Edits changes (L.body ++ [['\x7d']]) ((L.edit changes plain).body ++ [['\x7d']]) := by
  have hlast : kind (objectLine false L.last.object) = .other := by
    obtain ⟨inner, hobject, hinner⟩ := L.last.exists_inner
    rw [hobject]
    exact kind_objectLine_last fun h => (hinner _ h).2 rfl
  have hsentinel : editLine changes sentinel =
      .ok ⟨changes.additions.map additionLine ++ [sentinel], changes.additions⟩ := by
    have hkind : kind sentinel = .sentinel := by decide
    rw [editLine, hkind]
  have hopen : kind ['\x7b'] = .other := by decide
  have hlist : kind "  \"entries\": [".toList = .other := by decide
  have hend : kind [' ', ' ', ']'] = .other := by decide
  have hclose : kind ['\x7d'] = .other := by decide
  -- from the last lines up
  have hclosing := (Edits.fillers changes L.closing).append (.other hend (.fillers changes L.tail))
  have hbelow := (edits_rows changes L.below).append (.other hlast hclosing)
  have habove := (edits_rows changes L.above).append (.cons hsentinel hbelow)
  have hopening := (Edits.fillers changes L.opening).append (.other hlist habove)
  have hhead := (Edits.fillers changes L.head).append (.other hopen hopening)
  have hall := hhead.append (.other hclose .nil)
  simpa [body, edit, map_added] using hall

lemma filterMap_kept (changes : PendingChanges) (rows : List Row) :
    (rows.filter (Row.kept changes)).filterMap Row.entry? =
      (rows.filterMap Row.entry?).filter fun e => !changes.removes e.name := by
  induction rows with
  | nil => rfl
  | cons row rows ih =>
    cases row with
    | filler f => exact ih
    | entry r =>
      by_cases hr : changes.removes r.entry.name = true
      · simpa [Row.kept, Row.entry?, hr] using ih
      · simpa [Row.kept, Row.entry?, hr] using ih

lemma entriesAbove_edit (L : Layout) {changes : PendingChanges}
    (plain : ∀ name ∈ changes.additions, Plain name) :
    (L.edit changes plain).entriesAbove =
      L.entriesAbove.filter (fun e => !changes.removes e.name)
        ++ changes.additions.map Entry.addition := by
  rw [entriesAbove, edit, List.filterMap_append, filterMap_kept, filterMap_added]
  rfl

lemma entriesBelow_edit (L : Layout) {changes : PendingChanges}
    (plain : ∀ name ∈ changes.additions, Plain name) :
    (L.edit changes plain).entriesBelow =
      L.entriesBelow.filter fun e => !changes.removes e.name :=
  filterMap_kept changes L.below

end Layout

/-! ### What a reader sees -/

/-- The lines that are no comments, without the carriage returns at their ends. -/
def visible (ls : List (List Char)) : List (List Char) :=
  (ls.map (stripEnd '\r')).filter fun l => !PreloadList.isComment l

lemma visible_append (ls ms : List (List Char)) :
    visible (ls ++ ms) = visible ls ++ visible ms := by
  simp [visible]

lemma visible_cons {line : List Char} (hr : line.getLast? ≠ some '\r')
    (hc : PreloadList.isComment line = false) (ls : List (List Char)) :
    visible (line :: ls) = line :: visible ls := by
  simp [visible, stripEnd_of_getLast?_ne hr, hc]

lemma visible_sentinel (ls : List (List Char)) : visible (sentinel :: ls) = visible ls := by
  have hr : sentinel.getLast? ≠ some '\r' := by decide
  have hc : PreloadList.isComment sentinel = true := by decide
  simp [visible, stripEnd_of_getLast?_ne hr, hc]

lemma isComment_stripEnd {line : List Char} (h : PreloadList.isComment line = true) :
    PreloadList.isComment (stripEnd '\r' line) = true := by
  rcases stripEnd_cases '\r' line with hs | ⟨start, rfl, hs⟩
  · rwa [hs]
  · rw [hs]
    rw [PreloadList.isComment, trimStart, List.dropWhile_append] at h
    rw [PreloadList.isComment, trimStart]
    have hreturn : ['\r'].dropWhile isBlank = [] := by decide
    -- two slashes cannot be the return that is cut off
    revert h
    match start.dropWhile isBlank with
    | [] => simp [hreturn]
    | [c] => simp
    | c :: d :: rest => simp

lemma blank_stripEnd {line : List Char} (h : Blank line) : Blank (stripEnd '\r' line) := by
  rcases stripEnd_cases '\r' line with hs | ⟨start, rfl, hs⟩
  · rwa [hs]
  · rw [hs]
    exact (blank_append.mp h).1

lemma blank_of_mem_visible {fs : List Filler} {l : List Char}
    (h : l ∈ visible (fs.map Filler.line)) : Blank l := by
  rw [visible, List.mem_filter, List.map_map, List.mem_map] at h
  obtain ⟨⟨f, -, rfl⟩, hc⟩ := h
  rcases f.hidden with hf | hf
  · rw [Function.comp_apply, isComment_stripEnd hf] at hc
    exact absurd hc (by simp)
  · exact blank_stripEnd hf

lemma blank_continued {ls : List (List Char)} (h : ∀ l ∈ ls, Blank l) :
    Blank (continued '\n' ls) := by
  induction ls with
  | nil => exact .nil
  | cons l ls ih =>
    have hl : Blank l := h l List.mem_cons_self
    have hls : Blank (continued '\n' ls) := ih fun m hm => h m (List.mem_cons_of_mem _ hm)
    rw [continued_cons]
    simp [hl, hls, isSpace]

lemma exists_joinWith {gaps : List (List Char)} (h : ∀ l ∈ gaps, Blank l) (line : List Char)
    (ls : List (List Char)) :
    ∃ sp, Blank sp ∧ joinWith '\n' (gaps ++ line :: ls) = sp ++ (line ++ continued '\n' ls) := by
  cases gaps with
  | nil => exact ⟨[], .nil, joinWith_cons line ls⟩
  | cons g gaps =>
    have hg : Blank g := h g List.mem_cons_self
    have hgaps : Blank (continued '\n' gaps) :=
      blank_continued fun l hl => h l (List.mem_cons_of_mem _ hl)
    refine ⟨g ++ (continued '\n' gaps ++ ['\n']), by simp [hg, hgaps, isSpace], ?_⟩
    rw [List.cons_append, joinWith_cons, continued_append, continued_cons]
    simp

/-- What a reader sees of rows are the items of a list, each with the comma behind it. -/
lemma spellsItems_rows {items : List Value} {text : List Char} (hne : items ≠ [])
    (h : SpellsItems items text) (rows : List Row) :
    SpellsItems ((rows.filterMap Row.entry?).map Entry.toJson ++ items)
      (continued '\n' (visible (rows.map Row.line)) ++ text) := by
  induction rows with
  | nil => exact h
  | cons row rows ih =>
    cases row with
    | filler f =>
      have hblank : Blank (continued '\n' (visible [f.line])) :=
        blank_continued fun l hl => @blank_of_mem_visible [f] l hl
      have hrest := ih.blank_append hblank
      rw [← List.append_assoc, ← continued_append, ← visible_append] at hrest
      exact hrest
    | entry r =>
      obtain ⟨w, more, hmore⟩ := List.exists_cons_of_ne_nil (l := (rows.filterMap Row.entry?).map
        Entry.toJson ++ items) (by simp [hne])
      have hline : visible ((objectLine true r.object) :: rows.map Row.line) =
          objectLine true r.object :: visible (rows.map Row.line) :=
        visible_cons (r.getLast?_objectLine true) (r.isComment_objectLine true) _
      rw [hmore] at ih
      have hindent : Blank ('\n' :: [' ', ' ', ' ', ' ']) := by decide
      have hcons := SpellsItems.cons hindent r.spells .nil ih
      rw [← hmore] at hcons
      rw [List.map_cons, Row.line, hline, continued_cons, objectLine, if_pos rfl]
      simpa [Row.entry?] using hcons

namespace Layout

variable (L : Layout)

lemma unbroken_row (row : Row) : '\n' ∉ row.line := by
  cases row with
  | filler f => exact f.unbroken
  | entry r => exact r.unbroken_objectLine true

lemma unbroken_fillers {fs : List Filler} {l : List Char} (h : l ∈ fs.map Filler.line) :
    '\n' ∉ l := by
  obtain ⟨f, -, rfl⟩ := List.mem_map.mp h
  exact f.unbroken

lemma unbroken_rows {rows : List Row} {l : List Char} (h : l ∈ rows.map Row.line) : '\n' ∉ l := by
  obtain ⟨row, -, rfl⟩ := List.mem_map.mp h
  exact unbroken_row row

lemma unbroken : ∀ l ∈ L.body ++ [['\x7d']], '\n' ∉ l := by
  intro l hl
  simp only [body, List.mem_append, List.mem_cons, List.not_mem_nil, or_false] at hl
  rcases hl with (hl | rfl | hl | rfl | hl | rfl | hl | rfl | hl | rfl | hl) | rfl
  · exact unbroken_fillers hl
  · decide
  · exact unbroken_fillers hl
  · decide
  · exact unbroken_rows hl
  · decide
  · exact unbroken_rows hl
  · exact L.last.unbroken_objectLine false
  · exact unbroken_fillers hl
  · decide
  · exact unbroken_fillers hl
  · decide

lemma linesOf_text (closed : Bool) : linesOf (L.text closed) = L.body ++ [['\x7d']] :=
  @linesOf_linesText closed L.body [] '\x7d' L.unbroken

lemma withoutComments_text (closed : Bool) : PreloadList.withoutComments (L.text closed) =
    .ofList (joinWith '\n' (visible (L.body ++ [['\x7d']]))) := by
  have hlines := lines_linesText closed L.unbroken (by decide) (by decide)
  rw [PreloadList.withoutComments, text, String.toList_ofList, hlines]
  rfl

lemma visible_body : visible (L.body ++ [['\x7d']]) =
    visible (L.head.map Filler.line) ++ ['\x7b'] :: (visible (L.opening.map Filler.line)
      ++ "  \"entries\": [".toList :: (visible ((L.above ++ L.below).map Row.line)
        ++ objectLine false L.last.object :: (visible (L.closing.map Filler.line)
          ++ [' ', ' ', ']'] :: (visible (L.tail.map Filler.line) ++ [['\x7d']])))) := by
  have hopen := @visible_cons ['\x7b'] (by decide) (by decide)
  have hlist := @visible_cons "  \"entries\": [".toList (by decide) (by decide)
  have hlast := visible_cons (L.last.getLast?_objectLine false) (L.last.isComment_objectLine false)
  have hend := @visible_cons [' ', ' ', ']'] (by decide) (by decide)
  have hclose : visible [['\x7d']] = [['\x7d']] := by decide
  simp only [body, List.map_append, List.append_assoc, List.cons_append, visible_append, hopen,
    hlist, hlast, hend, hclose, visible_sentinel]

lemma filterMap_rows :
    (L.above ++ L.below).filterMap Row.entry? = L.entriesAbove ++ L.entriesBelow :=
  List.filterMap_append

lemma proper_entries : ∀ e ∈ L.entries, e.policy.Proper := by
  intro e he
  rw [entries, ← filterMap_rows, List.mem_append, List.mem_singleton, List.mem_filterMap] at he
  obtain ⟨row, -, hrow⟩ | rfl := he
  · cases row with
    | filler f => simp [Row.entry?] at hrow
    | entry r =>
      obtain rfl : r.entry = e := by simpa [Row.entry?] using hrow
      exact r.policy_proper
  · exact L.last.policy_proper

/-- A reader of the list finds the entries of its rows, and the last. -/
theorem parse_text (closed : Bool) : PreloadList.parse (L.text closed) = .ok ⟨L.entries⟩ := by
  have hblank : ∀ fs : List Filler, Blank (continued '\n' (visible (fs.map Filler.line))) :=
    fun fs => blank_continued fun _ => blank_of_mem_visible
  have hindent : Blank ('\n' :: [' ', ' ', ' ', ' ']) := by decide
  have hafter : Blank (continued '\n' (visible (L.closing.map Filler.line)) ++ ['\n', ' ', ' ']) :=
    blank_append.mpr ⟨hblank _, by decide⟩
  have hbefore : Blank (continued '\n' (visible (L.opening.map Filler.line)) ++ ['\n', ' ', ' ']) :=
    blank_append.mpr ⟨hblank _, by decide⟩
  have htail : Blank (continued '\n' (visible (L.tail.map Filler.line)) ++ ['\n']) :=
    blank_append.mpr ⟨hblank _, by decide⟩
  -- from the items outwards: the list, its one member, the object
  have hitems := spellsItems_rows (by simp) (.one hindent L.last.spells hafter) (L.above ++ L.below)
  have hentries : ((L.above ++ L.below).filterMap Row.entry?).map Entry.toJson
      ++ [L.last.entry.toJson] = L.entries.map Entry.toJson := by
    rw [filterMap_rows, entries]
    simp
  rw [hentries] at hitems
  have hmember := SpellsMembers.one (k := "entries") hbefore .nil (by decide : Blank [' '])
    (.list hitems) htail
  have hreads : Reads PreloadList.read _ ⟨L.entries⟩ :=
    PreloadList.reads L.proper_entries (.object hmember)
  obtain ⟨sp, hsp, hjoin⟩ := exists_joinWith (fun _ => blank_of_mem_visible) ['\x7b']
    (visible (L.opening.map Filler.line)
      ++ "  \"entries\": [".toList :: (visible ((L.above ++ L.below).map Row.line)
        ++ objectLine false L.last.object :: (visible (L.closing.map Filler.line)
          ++ [' ', ' ', ']'] :: (visible (L.tail.map Filler.line) ++ [['\x7d']]))))
  have hread := readAll_of_reads hreads hsp .nil
  rw [PreloadList.parse, withoutComments_text, visible_body, hjoin]
  have hkey : "  \"entries\": [".toList =
      [' ', ' '] ++ (stringText "entries" ++ [':', ' ', '[']) := by
    decide
  simpa [hkey, objectLine] using hread

end Layout

/-- An edit changes what a reader finds by just the entries that are taken off and those that are
added; the last entry always stays. -/
theorem update_preserves_entries (L : Layout) (closed : Bool)
    (additions removals automated : List String) (plain : ∀ name ∈ additions, Plain name) :
    let changes := PendingChanges.ofLists additions removals automated
    let stays := fun e : Entry => !changes.removes e.name
    PreloadList.parse (L.text closed) = .ok ⟨L.entriesAbove ++ L.entriesBelow ++ [L.last.entry]⟩ ∧
      ∃ updated, update (L.text closed) changes = .ok updated ∧
        PreloadList.parse updated.contents = .ok ⟨L.entriesAbove.filter stays
          ++ additions.mergeSort.map Entry.addition ++ L.entriesBelow.filter stays
          ++ [L.last.entry]⟩ := by
  intro changes stays
  have hplain : ∀ name ∈ changes.additions, Plain name :=
    fun name hname => plain name (List.mem_mergeSort.mp hname)
  have hedits : Edits changes (linesOf (L.text closed))
      ((L.edit changes hplain).body ++ [['\x7d']]) := by
    rw [L.linesOf_text closed]
    exact L.edits_body hplain
  obtain ⟨duplicates, hupdate⟩ := hedits.update_eq
  have hcontents : ofLines ((L.edit changes hplain).body ++ [['\x7d']]) =
      (L.edit changes hplain).text true := ofLines_eq (by simp)
  refine ⟨L.parse_text closed, ⟨_, duplicates⟩, hupdate, ?_⟩
  rw [hcontents, Layout.parse_text, Layout.entries, L.entriesAbove_edit hplain,
    L.entriesBelow_edit hplain]
  rfl

namespace Layout

def listed (name : String) (h : Plain name) : Listed :=
  { Listed.addition name h with wide := false }

/-- A list with a comment, an entry and an empty line above the sentinel and an entry below it. -/
def sample : Layout where
  head := []
  opening := []
  above := [.filler ⟨"    // Bulk entries".toList, by decide, by decide, .inl (by decide)⟩,
    .entry (listed "a.example" (by decide)), .filler ⟨[], by decide, by decide, .inr .nil⟩]
  below := [.entry (listed "d.example" (by decide))]
  last := listed "e.example" (by decide)
  closing := []
  tail := []

theorem sample_edited :
    let changes := PendingChanges.ofLists ["c.example", "b.example"] ["a.example"] ["e.example"]
    (∀ name ∈ ["c.example", "b.example"], Plain name) ∧
      ∃ updated, update (sample.text true) changes = .ok updated ∧
        PreloadList.parse updated.contents = .ok ⟨
          ["b.example", "c.example", "d.example", "e.example"].map Entry.addition⟩ := by
  intro changes
  have plain : ∀ name ∈ ["c.example", "b.example"], Plain name := by decide
  obtain ⟨-, updated, hupdate, hparse⟩ := update_preserves_entries sample true
    ["c.example", "b.example"] ["a.example"] ["e.example"] plain
  have hsorted : ["c.example", "b.example"].mergeSort = ["b.example", "c.example"] := by
    have hle : ¬ "c.example" ≤ "b.example" := by decide
    simp [List.mergeSort, hle]
  rw [hsorted] at hparse
  exact ⟨plain, updated, hupdate, hparse⟩

end Layout

end ListText

end HstsPreload
