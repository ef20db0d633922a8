import HstsPreload.PreloadList
import Mathlib.Tactic.Lemma
import Mathlib.Tactic.SplitIfs

/-!
# Reading what spells a value

A text spells a JSON value if it holds the tokens of the value in order, with any blanks between
them. The readers of strings, words, lists and records get from such a text what was written, and
leave alone what follows it. So entries and lists of entries are read as they were, in whichever
form they are written.
-/

namespace HstsPreload.Json

open HstsPreload.Text

def Blank (cs : List Char) : Prop :=
  ∀ c ∈ cs, isSpace c = true

instance (cs : List Char) : Decidable (Blank cs) :=
  List.decidableBAll _ cs

@[simp] lemma Blank.nil : Blank [] := by
  simp [Blank]

@[simp] lemma blank_cons {c : Char} {cs : List Char} :
    Blank (c :: cs) ↔ isSpace c = true ∧ Blank cs := by
  simp [Blank]

@[simp] lemma blank_append {cs ds : List Char} : Blank (cs ++ ds) ↔ Blank cs ∧ Blank ds := by
  simp [Blank, or_imp, forall_and]

lemma skipSpace_append {sp : List Char} (h : Blank sp) (cs : List Char) :
    skipSpace (sp ++ cs) = skipSpace cs :=
  List.dropWhile_append_of_pos h

lemma skipSpace_cons {c : Char} (h : isSpace c = false) (cs : List Char) :
    skipSpace (c :: cs) = c :: cs := by
  simp [skipSpace, h]

lemma skipSpace_token {sp : List Char} (h : Blank sp) {c : Char} (hc : isSpace c = false)
    (cs : List Char) : skipSpace (sp ++ c :: cs) = c :: cs := by
  rw [skipSpace_append h, skipSpace_cons hc]

mutual

/-- The texts of a value: its tokens, with blanks between them. -/
inductive Spells : Value → List Char → Prop
  | null : Spells .null nullText
  | bool (b : Bool) : Spells (.bool b) (boolText b)
  | number (n : Number) : Spells (.number n) n.text
  | string (s : String) : Spells (.string s) (stringText s)
  | list {items : List Value} {text : List Char} (h : SpellsItems items text) :
      Spells (.list items) ('[' :: (text ++ [']']))
  | object {members : List (String × Value)} {text : List Char} (h : SpellsMembers members text) :
      Spells (.object members) ('\x7b' :: (text ++ ['\x7d']))

/-- The texts of items between the brackets of a list. -/
inductive SpellsItems : List Value → List Char → Prop
  | nil {sp : List Char} (h : Blank sp) : SpellsItems [] sp
  | one {v : Value} {before text after : List Char} (hb : Blank before) (h : Spells v text)
      (ha : Blank after) : SpellsItems [v] (before ++ (text ++ after))
  | cons {v w : Value} {more : List Value} {before text after rest : List Char} (hb : Blank before)
      (h : Spells v text) (ha : Blank after) (hr : SpellsItems (w :: more) rest) :
      SpellsItems (v :: w :: more) (before ++ (text ++ (after ++ ',' :: rest)))

/-- The texts of members between the braces of an object. -/
inductive SpellsMembers : List (String × Value) → List Char → Prop
  | nil {sp : List Char} (h : Blank sp) : SpellsMembers [] sp
  | one {k : String} {v : Value} {before between inner text after : List Char}
      (hb : Blank before) (hc : Blank between) (hi : Blank inner) (h : Spells v text)
      (ha : Blank after) :
      SpellsMembers [(k, v)]
        (before ++ (stringText k ++ (between ++ ':' :: (inner ++ (text ++ after)))))
  | cons {k : String} {v : Value} {m : String × Value} {more : List (String × Value)}
      {before between inner text after rest : List Char} (hb : Blank before) (hc : Blank between)
      (hi : Blank inner) (h : Spells v text) (ha : Blank after)
      (hr : SpellsMembers (m :: more) rest) :
      SpellsMembers ((k, v) :: m :: more) (before ++ (stringText k
        ++ (between ++ ':' :: (inner ++ (text ++ (after ++ ',' :: rest))))))

end

lemma SpellsItems.blank_append {items : List Value} {text sp : List Char}
    (h : SpellsItems items text) (hsp : Blank sp) : SpellsItems items (sp ++ text) := by
  cases h with
  | nil h => exact .nil (by simp [hsp, h])
  | one hb h ha =>
    rw [← List.append_assoc]
    exact .one (by simp [hsp, hb]) h ha
  | cons hb h ha hr =>
    rw [← List.append_assoc]
    exact .cons (by simp [hsp, hb]) h ha hr

mutual

theorem spells_compact : ∀ v : Value, Spells v v.compact
  | .null => .null
  | .bool b => .bool b
  | .number n => .number n
  | .string s => .string s
  | .list items => by
    rw [Value.compact, List.cons_append]
    exact .list (spellsItems_compact items)
  | .object members => by
    rw [Value.compact, List.cons_append]
    exact .object (spellsMembers_compact members)

theorem spellsItems_compact : ∀ items : List Value, SpellsItems items (Value.compactItems items)
  | [] => .nil .nil
  | [v] => by
    have h := SpellsItems.one .nil (spells_compact v) .nil
    rwa [List.nil_append, List.append_nil] at h
  | v :: w :: more => .cons .nil (spells_compact v) .nil (spellsItems_compact (w :: more))

theorem spellsMembers_compact : ∀ members : List (String × Value),
    SpellsMembers members (Value.compactMembers members)
  | [] => .nil .nil
  | [(k, v)] => by
    have h := SpellsMembers.one (k := k) .nil .nil .nil (spells_compact v) .nil
    rwa [List.nil_append, List.nil_append, List.nil_append, List.append_nil] at h
  | (k, v) :: m :: more => by
    have h := SpellsMembers.cons (k := k) .nil .nil .nil (spells_compact v) .nil
      (spellsMembers_compact (m :: more))
    simpa [Value.compactMembers] using h

end

/-- Whether a reader gets a value from a text, with any blanks before it and anything behind it. -/
structure Reads {α : Type} (read : Reader α) (text : List Char) (a : α) : Prop where
  token : ∃ c rest, text = c :: rest ∧ isSpace c = false ∧ c ≠ ']'
  result : ∀ sp rest, Blank sp → read (sp ++ (text ++ rest)) = .ok (a, rest)

lemma Reads.map {α β : Type} {read : Reader α} {text : List Char} {a : α}
    (h : Reads read text a) (f : α → β) :
    Reads (fun cs => do let (a, rest) ← read cs; return (f a, rest)) text (f a) where
  token := h.token
  result sp rest hsp := by
    simp only [h.result sp rest hsp]
    rfl

theorem readAll_of_reads {α : Type} {read : Reader α} {text before after : List Char} {a : α}
    (h : Reads read text a) (hb : Blank before) (ha : Blank after) :
    readAll read (.ofList (before ++ (text ++ after))) = .ok a := by
  have hend : skipSpace after = [] := List.append_nil after ▸ skipSpace_append ha []
  simp [readAll, h.result before after hb, hend]

/-! ### Strings and words -/

lemma hexDigit?_lowerHexDigit : ∀ n < 16, hexDigit? (lowerHexDigit n) = some n := by
  decide

lemma readStringFrom_escapeChar (done : List Char) (c : Char) (rest : List Char) :
    readStringFrom done .plain (escapeChar c ++ rest) = readStringFrom (c :: done) .plain rest := by
  have hc : Char.ofNat c.toNat = c := Char.ofNat_toNat c
  unfold escapeChar
  split_ifs with hq hs h8 ht hn h12 hr hctl
  · simp [readStringFrom, simpleEscape?, hq]
  · simp [readStringFrom, simpleEscape?, hs]
  · obtain rfl : Char.ofNat 8 = c := h8 ▸ hc
    rfl
  · simp [readStringFrom, simpleEscape?, ht]
  · simp [readStringFrom, simpleEscape?, hn]
  · obtain rfl : Char.ofNat 12 = c := h12 ▸ hc
    rfl
  · simp [readStringFrom, simpleEscape?, hr]
  · -- a control: two zeros and the two digits of its number
    have hzero : hexDigit? '0' = some 0 := by decide
    have hhigh := hexDigit?_lowerHexDigit (c.toNat / 16) (by omega)
    have hlow := hexDigit?_lowerHexDigit (c.toNat % 16) (by omega)
    have hsum : 16 * (c.toNat / 16) + c.toNat % 16 = c.toNat := Nat.div_add_mod _ _
    have hunit : Unit16.of c.toNat none = .char c := by
      rw [Unit16.of, if_neg (by omega), if_neg (by omega), hc]
    simp [readStringFrom, hzero, hhigh, hlow, hsum, hunit]
  · simp [readStringFrom, hq, hs, hctl]

lemma readStringFrom_text (s done rest : List Char) :
    readStringFrom done .plain (s.flatMap escapeChar ++ '"' :: rest) =
      .ok (done.reverse ++ s, rest) := by
  induction s generalizing done with
  | nil => simp [readStringFrom]
  | cons c s ih =>
    rw [List.flatMap_cons, List.append_assoc, readStringFrom_escapeChar, ih]
    simp

lemma readStringTail_text (s : String) (rest : List Char) :
    readStringTail (s.toList.flatMap escapeChar ++ '"' :: rest) = .ok (s, rest) := by
  simp only [readStringTail, readStringFrom_text]
  simp [bind, Except.bind, pure, Except.pure]

lemma stringText_append (s : String) (rest : List Char) :
    stringText s ++ rest = '"' :: (s.toList.flatMap escapeChar ++ '"' :: rest) := by
  simp [stringText]

lemma spelled_string {α : Type} {read : Reader α} {s : String} {a : α}
    (h : Reads read (stringText s) a) : ∀ text, Spells (.string s) text → Reads read text a := by
  intro text hs
  cases hs
  exact h

lemma isSpace_quote : isSpace '"' = false := by
  decide

theorem reads_string (s : String) : Reads readString (stringText s) s where
  token := ⟨'"', _, rfl, isSpace_quote, by decide⟩
  result sp rest hsp := by
    rw [stringText_append, readString, skipSpace_token hsp isSpace_quote]
    exact readStringTail_text s rest

theorem reads_bool (b : Bool) : Reads readBool (boolText b) b where
  token := by cases b <;> exact ⟨_, _, rfl, by decide, by decide⟩
  result sp rest hsp := by
    cases b with
    | true => rw [readBool, skipSpace_append hsp]; rfl
    | false => rw [readBool, skipSpace_append hsp]; rfl

theorem reads_word {α : Type} (w : Words α) {a : α} (h : w.find? (w.text a) = some a) :
    Reads w.read (stringText (w.text a)) a where
  token := ⟨'"', _, rfl, isSpace_quote, by decide⟩
  result sp rest hsp := by
    rw [stringText_append, Words.read, skipSpace_token hsp isSpace_quote]
    simp [Words.readName, readStringTail_text, h, bind, Except.bind]

/-! ### Lists -/

lemma length_le_of_spellsItems : ∀ {items : List Value} {text : List Char},
    SpellsItems items text → items.length ≤ text.length + 1
  | [], _, _ => by simp
  | [_], _, _ => by simp
  | _ :: w :: more, _, .cons _ _ _ hr => by
    have h := length_le_of_spellsItems hr
    simp only [List.length_cons, List.length_append] at h ⊢
    omega

/-- What stands before an item or a member, unless it is the first. -/
def comma (first : Bool) : List Char :=
  if first then [] else [',']

lemma nextItem_item (first : Bool) {sp before : List Char} (hsp : Blank sp) (hb : Blank before)
    {c : Char} (hc : isSpace c = false) (hend : c ≠ ']') (rest : List Char) :
    nextItem first (sp ++ (comma first ++ (before ++ c :: rest))) =
      .ok (some (c :: rest), c :: rest) := by
  cases first with
  | true =>
    simp [nextItem, comma, skipSpace_append hsp, skipSpace_token hb hc]
  | false =>
    have hcomma : skipSpace (sp ++ ',' :: (before ++ c :: rest)) = ',' :: (before ++ c :: rest) :=
      skipSpace_token hsp (by decide) _
    have hitem : skipSpace (before ++ c :: rest) = c :: rest := skipSpace_token hb hc rest
    simp only [nextItem, comma, Bool.false_eq_true, if_false, List.singleton_append, hcomma]
    simp only [Char.reduceEq, imp_self, ↓reduceIte]
    rw [hitem]
    simp [hend]

lemma nextItem_end (first : Bool) {sp : List Char} (hsp : Blank sp) (rest : List Char) :
    nextItem first (sp ++ ']' :: rest) = .ok (none, ']' :: rest) := by
  rw [nextItem, skipSpace_token hsp (by decide)]
  rfl

variable {α : Type} {read : Reader α}

lemma readItems_item {text : List Char} {a : α} (h : Reads read text a) (fuel : Nat)
    (done : List α) {sp before : List Char} (hsp : Blank sp) (hb : Blank before)
    (rest : List Char) :
    readItems read (fuel + 1) done (sp ++ (comma done.isEmpty ++ (before ++ (text ++ rest)))) =
      readItems read fuel (a :: done) rest := by
  obtain ⟨c, tail, rfl, hc, hend⟩ := h.token
  have hresult := h.result [] rest .nil
  rw [List.nil_append, List.cons_append] at hresult
  rw [readItems, List.cons_append, nextItem_item _ hsp hb hc hend]
  simp [hresult, bind, Except.bind]

lemma readItems_end (fuel : Nat) (done : List α) {sp : List Char} (hsp : Blank sp)
    (rest : List Char) :
    readItems read (fuel + 1) done (sp ++ ']' :: rest) = .ok (done.reverse, ']' :: rest) := by
  rw [readItems, nextItem_end _ hsp]
  rfl

section Items

variable {β : Type} {toJson : β → Value} {value : β → α}

lemma readItems_spelled : ∀ (as : List β) (done : List α) (fuel : Nat)
    (sp text rest : List Char), as ≠ [] →
    (∀ a ∈ as, ∀ text, Spells (toJson a) text → Reads read text (value a)) → Blank sp →
    SpellsItems (as.map toJson) text → as.length < fuel →
    readItems read fuel done (sp ++ (comma done.isEmpty ++ (text ++ ']' :: rest))) =
      .ok (done.reverse ++ as.map value, ']' :: rest)
  | [a], done, fuel + 2, sp, _, rest, _, reads, hsp, .one hb h ha, _ => by
    -- one round reads the item, the next finds the bracket
    have hread := reads a (by simp) _ h
    rw [List.append_assoc, List.append_assoc, readItems_item hread _ _ hsp hb,
      readItems_end _ _ ha, List.reverse_cons, List.map_singleton]
  | a :: b :: more, done, fuel + 1, sp, _, rest, _, reads, hsp,
      .cons hb h ha hr, hfuel => by
    -- what follows the item, up to the comma, is blanks before the next
    have hread := reads a (by simp) _ h
    have hmore := readItems_spelled (b :: more) (value a :: done) fuel _ _ rest (by simp)
      (fun c hc => reads c (by simp [hc])) ha hr (by simpa using hfuel)
    rw [List.isEmpty_cons, comma, if_neg Bool.false_ne_true, List.singleton_append] at hmore
    rw [List.append_assoc, List.append_assoc, List.append_assoc, List.cons_append,
      readItems_item hread _ _ hsp hb, hmore]
    simp

theorem reads_list (value : β → α) {as : List β} {text : List Char}
    (reads : ∀ a ∈ as, ∀ text, Spells (toJson a) text → Reads read text (value a))
    (spelled : Spells (.list (as.map toJson)) text) :
    Reads (readList read) text (as.map value) := by
  obtain ⟨_⟩ | ⟨_⟩ | ⟨_⟩ | ⟨_⟩ | ⟨hitems⟩ := spelled
  rename_i inner
  refine ⟨⟨'[', _, rfl, by decide, by decide⟩, fun sp rest hsp => ?_⟩
  -- the fuel is the length of what is unread, of which each item but the last takes its comma
  have hlength := length_le_of_spellsItems hitems
  rw [List.length_map] at hlength
  have hread : readItems read ((inner ++ ']' :: rest).length + 1) [] (inner ++ ']' :: rest) =
      .ok (as.map value, ']' :: rest) := by
    cases as with
    | nil =>
      cases hitems with
      | nil hblank => exact readItems_end _ [] hblank rest
    | cons a more =>
      refine readItems_spelled (a :: more) [] _ [] inner rest (by simp) reads .nil hitems ?_
      simp only [List.length_append, List.length_cons] at hlength ⊢
      omega
  have hend : endList (']' :: rest) = .ok rest := by
    rw [endList, skipSpace_cons (by decide)]
    rfl
  rw [readList, List.cons_append, List.append_assoc, List.singleton_append,
    skipSpace_token hsp (by decide)]
  simp only [hread, hend, bind, Except.bind, pure, Except.pure]

end Items

/-! ### Records -/

variable {σ : Type}

/-- What members that are read in turn make of a draft. -/
inductive Fills (kind : RecordKind σ) : σ → List (String × Value) → σ → Prop
  | nil {d : σ} : Fills kind d [] d
  | cons {d d' d'' : σ} {key : String} {v : Value} {more : List (String × Value)} {m : Member σ}
      (find : kind.find? key = some m) (fresh : m.present d = false)
      (reads : ∀ text, Spells v text → Reads (m.read d) text d') (rest : Fills kind d' more d'') :
      Fills kind d ((key, v) :: more) d''

lemma Fills.append {kind : RecordKind σ} {d d' d'' : σ} {members more : List (String × Value)}
    (h : Fills kind d members d') (hmore : Fills kind d' more d'') :
    Fills kind d (members ++ more) d'' := by
  induction h with
  | nil => exact hmore
  | cons find fresh reads _ ih => exact .cons find fresh reads (ih hmore)

lemma Fills.field {kind : RecordKind σ} {key : String} {required : Bool} {get : σ → Option α}
    {set : σ → α → σ} {d : σ} {v : Value} {a : α}
    (find : kind.find? key = some (.field key required get set read)) (fresh : get d = none)
    (reads : ∀ text, Spells v text → Reads read text a) : Fills kind d [(key, v)] (set d a) := by
  refine .cons find ?_ (fun text h => (reads text h).map (set d)) .nil
  simp [Member.field, fresh]

lemma length_le_of_spellsMembers : ∀ {members : List (String × Value)} {text : List Char},
    SpellsMembers members text → members.length ≤ text.length
  | [], _, _ => by simp
  | [_], _, .one _ _ _ _ _ => by
    simp only [List.length_cons, List.length_append, List.length_nil]
    omega
  | _ :: _ :: _, _, .cons _ _ _ _ _ hr => by
    have h := length_le_of_spellsMembers hr
    simp only [List.length_cons, List.length_append] at h ⊢
    omega

lemma nextKey_member (first : Bool) {sp before : List Char} (hsp : Blank sp) (hb : Blank before)
    (rest : List Char) :
    nextKey first (sp ++ (comma first ++ (before ++ '"' :: rest))) =
      .ok (some rest, rest) := by
  have hcomma : isSpace ',' = false := by decide
  cases first with
  | true => simp [nextKey, comma, skipSpace_append hsp, skipSpace_token hb isSpace_quote]
  | false =>
    simp [nextKey, comma, skipSpace_token hsp hcomma, skipSpace_token hb isSpace_quote]

lemma nextKey_end (first : Bool) {sp : List Char} (hsp : Blank sp) (rest : List Char) :
    nextKey first (sp ++ '\x7d' :: rest) = .ok (none, '\x7d' :: rest) := by
  rw [nextKey, skipSpace_token hsp (by decide)]
  rfl

lemma readColon_colon {sp : List Char} (hsp : Blank sp) (rest : List Char) :
    readColon (sp ++ ':' :: rest) = .ok rest := by
  rw [readColon, skipSpace_token hsp (by decide)]
  rfl

lemma pastObjectEnd_brace (rest : List Char) : pastObjectEnd ('\x7d' :: rest) = rest := by
  rw [pastObjectEnd, skipSpace_cons (by decide)]
  rfl

lemma readMembers_end {kind : RecordKind σ} {d : σ} (complete : kind.missing? d = none)
    (fuel : Nat) (first : Bool) {sp : List Char} (hsp : Blank sp) (rest : List Char) :
    kind.readMembers (fuel + 1) first d (sp ++ '\x7d' :: rest) = .ok (d, rest) := by
  rw [RecordKind.readMembers, nextKey_end _ hsp]
  simp [complete, pastObjectEnd_brace, bind, Except.bind]

lemma readMembers_member {kind : RecordKind σ} {m : Member σ} {key : String} {d d' : σ}
    {text : List Char} (find : kind.find? key = some m) (fresh : m.present d = false)
    (reads : Reads (m.read d) text d') (fuel : Nat) (first : Bool)
    {sp before between inner : List Char} (hsp : Blank sp) (hb : Blank before)
    (hc : Blank between) (hi : Blank inner) (rest : List Char) :
    kind.readMembers (fuel + 1) first d (sp ++ (comma first ++
        (before ++ (stringText key ++ (between ++ ':' :: (inner ++ (text ++ rest))))))) =
      kind.readMembers fuel false d' rest := by
  rw [RecordKind.readMembers, stringText_append, nextKey_member first hsp hb]
  simp [readStringTail_text, find, fresh, readColon_colon hc, reads.result inner rest hi, bind,
    Except.bind]

/-- Whether a loop that reads members makes `d'` of the draft `d` when it comes to a member, however
the member is written. -/
def Takes {ρ : Type} (loop : Nat → Bool → σ → List Char → Except Fault (ρ × List Char)) (d : σ)
    (key : String) (v : Value) (d' : σ) : Prop :=
  ∀ (fuel : Nat) (first : Bool) {sp before between inner text : List Char}, Blank sp →
    Blank before → Blank between → Blank inner → Spells v text → ∀ rest,
    loop (fuel + 1) first d (sp ++ (comma first ++
        (before ++ (stringText key ++ (between ++ ':' :: (inner ++ (text ++ rest))))))) =
      loop fuel false d' rest

/-- What a loop that reads members makes of a draft, member by member. -/
inductive Gathers {ρ : Type} (loop : Nat → Bool → σ → List Char → Except Fault (ρ × List Char)) :
    σ → List (String × Value) → σ → Prop
  | nil {d : σ} : Gathers loop d [] d
  | cons {d d' d'' : σ} {key : String} {v : Value} {more : List (String × Value)}
      (h : Takes loop d key v d') (rest : Gathers loop d' more d'') :
      Gathers loop d ((key, v) :: more) d''

section Loop

variable {ρ : Type} {loop : Nat → Bool → σ → List Char → Except Fault (ρ × List Char)}

lemma Gathers.append {d d' d'' : σ} {members more : List (String × Value)}
    (h : Gathers loop d members d') (hmore : Gathers loop d' more d'') :
    Gathers loop d (members ++ more) d'' := by
  induction h with
  | nil => exact hmore
  | cons h _ ih => exact .cons h (ih hmore)

lemma loop_spelled {rest : List Char} {result : ρ × List Char} :
    ∀ {members : List (String × Value)} {d d' : σ} (first : Bool) (fuel : Nat)
    {sp text : List Char}, members ≠ [] → Gathers loop d members d' →
    (∀ fuel first sp, Blank sp → loop (fuel + 1) first d' (sp ++ '\x7d' :: rest) = .ok result) →
    Blank sp → SpellsMembers members text → members.length < fuel →
    loop fuel first d (sp ++ (comma first ++ (text ++ '\x7d' :: rest))) = .ok result
  | [_], _, _, first, fuel + 2, sp, _, _, .cons takes .nil, ends, hsp, .one hb hc hi h ha, _ => by
    simp only [List.append_assoc, List.cons_append]
    rw [takes _ _ hsp hb hc hi h, ends _ _ _ ha]
  | _ :: m :: more, _, _, first, fuel + 1, sp, _, _, .cons takes gathered, ends, hsp,
      .cons hb hc hi h ha hr, hfuel => by
    have hmore := loop_spelled false fuel (by simp) gathered ends ha hr (by simpa using hfuel)
    simp only [List.append_assoc, List.cons_append]
    rw [takes _ _ hsp hb hc hi h, ← hmore]
    simp [comma]

/-- An object whose members a loop reads is read as what the loop makes of them. -/
theorem reads_object {read : Reader ρ} {empty d : σ} {result : ρ}
    {members : List (String × Value)} {text : List Char}
    (opens : ∀ sp rest, Blank sp →
      read (sp ++ '\x7b' :: rest) = loop (rest.length + 1) true empty rest)
    (gathered : Gathers loop empty members d)
    (ends : ∀ fuel first sp rest, Blank sp →
      loop (fuel + 1) first d (sp ++ '\x7d' :: rest) = .ok (result, rest))
    (spelled : Spells (.object members) text) : Reads read text result := by
  obtain ⟨_⟩ | ⟨_⟩ | ⟨_⟩ | ⟨_⟩ | ⟨_⟩ | ⟨hmembers⟩ := spelled
  rename_i inner
  refine ⟨⟨'\x7b', _, rfl, by decide, by decide⟩, fun sp rest hsp => ?_⟩
  have hlength := length_le_of_spellsMembers hmembers
  rw [List.cons_append, List.append_assoc, List.singleton_append, opens _ _ hsp]
  cases members with
  | nil =>
    cases gathered
    cases hmembers with
    | nil hblank => exact ends _ _ _ rest hblank
  | cons m more =>
    have hread := loop_spelled true ((inner ++ '\x7d' :: rest).length + 1)
      (List.cons_ne_nil m more) gathered (fun fuel first sp => ends fuel first sp rest) .nil hmembers
      (by simp only [List.length_append, List.length_cons] at hlength ⊢; omega)
    exact hread

end Loop

lemma Fills.gathers {kind : RecordKind σ} {d d' : σ} {members : List (String × Value)}
    (h : Fills kind d members d') : Gathers kind.readMembers d members d' := by
  induction h with
  | nil => exact .nil
  | cons find fresh reads _ ih =>
    refine .cons (fun fuel first _ _ _ _ _ hsp hb hc hi h rest => ?_) ih
    exact readMembers_member find fresh (reads _ h) fuel first hsp hb hc hi rest

theorem reads_record {kind : RecordKind σ} {members : List (String × Value)} {d : σ}
    {text : List Char} (filled : Fills kind kind.empty members d)
    (complete : kind.missing? d = none) (spelled : Spells (.object members) text) :
    Reads kind.read text d := by
  refine reads_object (fun sp rest hsp => ?_) filled.gathers (fun fuel first sp rest hsp => ?_)
    spelled
  · rw [RecordKind.read, skipSpace_token hsp (by decide)]
    rfl
  · exact readMembers_end complete fuel first hsp rest

end HstsPreload.Json

namespace HstsPreload

open HstsPreload.Json

/-! ### Entries and lists of entries -/

theorem Mode.reads (m : Mode) : Reads Mode.words.read (stringText m.text) m :=
  reads_word Mode.words (by cases m <;> rfl)

/-- A policy that its own tag stands for, which all but some tags kept as they are do. -/
def Policy.Proper (p : Policy) : Prop :=
  Policy.ofText p.text = p

theorem Policy.Proper.reads {p : Policy} (h : p.Proper) :
    Reads Policy.read (stringText p.text) p := by
  have hread := (reads_string p.text).map Policy.ofText
  rwa [h] at hread

namespace Entry

lemma fills_name (name : String) :
    Fills Entry.kind {} [("name", .string name)] { name := some name } := by
  have find : Entry.kind.find? "name" = some (.field "name" true Draft.name
      (fun d a => { d with name := some a }) readString) := rfl
  exact .field find rfl (spelled_string (reads_string name))

lemma fills_policy {p : Policy} (h : p.Proper) {d : Draft} (fresh : d.policy = none) :
    Fills Entry.kind d p.member { d with policy := if p = .unspecified then none else some p } := by
  have find : Entry.kind.find? "policy" = some (.field "policy" false Draft.policy
      (fun d a => { d with policy := some a }) Policy.read) := rfl
  unfold Policy.member
  split_ifs with hp
  · rw [← fresh]
    exact .nil
  · exact .field find fresh (spelled_string h.reads)

lemma fills_mode (m : Mode) {d : Draft} (fresh : d.mode = none) :
    Fills Entry.kind d m.member { d with mode := if m = .unspecified then none else some m } := by
  have find : Entry.kind.find? "mode" = some (.field "mode" false Draft.mode
      (fun d a => { d with mode := some a }) Mode.words.read) := rfl
  unfold Mode.member
  split_ifs with hm
  · rw [← fresh]
    exact .nil
  · exact .field find fresh (spelled_string m.reads)

lemma fills_includeSubdomains (b : Bool) {d : Draft} (fresh : d.includeSubdomains = none) :
    Fills Entry.kind d [("include_subdomains", .bool b)]
      { d with includeSubdomains := some b } := by
  have find : Entry.kind.find? "include_subdomains" = some (.field "include_subdomains" false
      Draft.includeSubdomains (fun d a => { d with includeSubdomains := some a }) readBool) := rfl
  refine .field find fresh fun text h => ?_
  cases h
  exact reads_bool b

/-- What an entry leaves in a draft: what is unspecified is not written. -/
def draft (e : Entry) : Draft where
  name := some e.name
  policy := if e.policy = .unspecified then none else some e.policy
  mode := if e.mode = .unspecified then none else some e.mode
  includeSubdomains := some e.includeSubdomains

lemma ofDraft_draft (e : Entry) : ofDraft e.draft = e := by
  cases e
  simp only [ofDraft, draft, Option.getD_some, Entry.mk.injEq, true_and, and_true]
  constructor
  · split_ifs with hp
    · exact hp.symm
    · rfl
  · split_ifs with hm
    · exact hm.symm
    · rfl

theorem reads {e : Entry} (h : e.policy.Proper) {text : List Char}
    (spelled : Spells e.toJson text) : Reads Entry.read text e := by
  have hname := fills_name e.name
  have hpolicy := hname.append (fills_policy h rfl)
  have hmode := hpolicy.append (fills_mode e.mode rfl)
  have hflag := hmode.append (fills_includeSubdomains e.includeSubdomains rfl)
  have hread := (reads_record (d := e.draft) hflag rfl spelled).map ofDraft
  rw [ofDraft_draft] at hread
  exact hread

end Entry

theorem PreloadList.reads {l : PreloadList} (h : ∀ e ∈ l.entries, e.policy.Proper)
    {text : List Char} (spelled : Spells l.toJson text) : Reads PreloadList.read text l := by
  have find : PreloadList.kind.find? "entries" = some (.field "entries" false id
      (fun _ a => some a) (readList Entry.read)) := rfl
  have hlist : ∀ text, Spells (.list (l.entries.map Entry.toJson)) text →
      Reads (readList Entry.read) text l.entries := by
    intro text hs
    have hread := reads_list id (fun e he _ => Entry.reads (h e he)) hs
    rwa [List.map_id] at hread
  have filled : Fills PreloadList.kind none [("entries", .list (l.entries.map Entry.toJson))]
      (some l.entries) := .field find rfl hlist
  exact (reads_record filled rfl spelled).map fun entries => PreloadList.mk (entries.getD [])

end HstsPreload
