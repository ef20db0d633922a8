import HstsPreload.Proofs.Layout
import Mathlib.Data.List.Nodup

/-!
# Changes that an edit makes

An edit that succeeds has made the changes that it can see: names are added above each sentinel,
lines with an entry of a name to be taken off are gone, and no name is on two lines unless it is
reported. This is about lines that end in a comma. The last entry has none and is never looked at,
and a text without the sentinel takes no additions.
-/

namespace HstsPreload.ListText

open HstsPreload.Json HstsPreload.Text

/-- Whether a line consists of four spaces and the object of an entry, with a comma or without. -/
def HoldsEntry (comma : Bool) (line : List Char) (e : Entry) : Prop :=
  ∃ inner, line = objectLine comma ('\x7b' :: (inner ++ ['\x7d'])) ∧
    Entry.parse (.ofList ('\x7b' :: (inner ++ ['\x7d']))) = .ok e

/-- The name of the entry on a line that the editor takes for one. -/
def nameOf? (line : List Char) : Option String :=
  if kind line = .entry then (entryOf line).toOption.map Entry.name else none

lemma parse_append {sp cs : List Char} {e : Entry} (hsp : Blank sp)
    (h : Entry.parse (.ofList cs) = .ok e) : Entry.parse (.ofList (sp ++ cs)) = .ok e := by
  have hread : Entry.read (sp ++ cs) = Entry.read cs := by
    simp only [Entry.read, RecordKind.read, skipSpace_append hsp]
  rw [Entry.parse, readAll, String.toList_ofList] at h ⊢
  simp only [hread]
  cases hr : Entry.read cs with
  | error f => simp [hr] at h
  | ok result =>
    obtain ⟨value, rest⟩ := result
    simp only [hr] at h ⊢
    split at h
    · exact h
    · simp at h

lemma HoldsEntry.kind_eq {line : List Char} {e : Entry} (h : HoldsEntry true line e) :
    kind line = .entry := by
  obtain ⟨inner, rfl, -⟩ := h
  exact kind_objectLine inner

lemma HoldsEntry.nameOf?_eq {line : List Char} {e : Entry} (h : HoldsEntry true line e) :
    nameOf? line = some e.name := by
  have hkind := h.kind_eq
  obtain ⟨inner, rfl, hparse⟩ := h
  have hindent : Blank [' ', ' ', ' ', ' '] := by decide
  have hstrip : stripEnd ',' (objectLine true ('\x7b' :: (inner ++ ['\x7d']))) =
      [' ', ' ', ' ', ' '] ++ '\x7b' :: (inner ++ ['\x7d']) := by
    rw [objectLine, if_pos rfl, ← List.append_assoc, stripEnd_concat]
  rw [nameOf?, if_pos hkind, entryOf, hstrip, parse_append hindent hparse]
  rfl

lemma holdsEntry_additionLine {name : String} (h : Verbatim name) :
    HoldsEntry true (additionLine name) (.addition name) := by
  refine ⟨_, additionLine_eq h, ?_⟩
  have hgap : Blank [' '] := by decide
  have hspells := (Entry.addition name).spells_spacedObject hgap
  have hproper : (Entry.addition name).policy.Proper := rfl
  have hreads := Entry.reads hproper hspells
  have hall := readAll_of_reads hreads .nil .nil
  rwa [List.nil_append, List.append_nil] at hall

lemma nameOf?_additionLine {name : String} (h : Verbatim name) :
    nameOf? (additionLine name) = some name :=
  (holdsEntry_additionLine h).nameOf?_eq

lemma nameOf?_sentinel : nameOf? sentinel = none := by
  decide

lemma not_mem_additionLine {name : String} (hname : '\n' ∉ name.toList) :
    '\n' ∉ additionLine name := by
  intro hm
  simp only [additionLine, String.toList_append, List.mem_append] at hm
  rcases hm with (hm | hm) | hm
  · exact absurd hm (by decide)
  · exact hname hm
  · exact absurd hm (by decide)

lemma unbroken_additionLine {name : String} (h : Verbatim name) : '\n' ∉ additionLine name :=
  not_mem_additionLine fun hm => absurd (h _ hm) (by decide)

/-! ### How often names occur -/

lemma getD_tally (names : List String) (name : String) :
    ((tally names)[name]?).getD 0 = names.count name := by
  have hfold : ∀ counts : Std.ExtTreeMap String Nat,
      ((names.foldl (fun counts name => counts.alter name fun n => some (n.getD 0 + 1))
        counts)[name]?).getD 0 = (counts[name]?).getD 0 + names.count name := by
    induction names with
    | nil => simp
    | cons first more ih =>
      intro counts
      rw [List.foldl_cons, ih, Std.ExtTreeMap.getElem?_alter]
      by_cases h : first = name
      · have heq : compare name name = .eq := Std.ReflCmp.compare_self
        rw [h, if_pos heq, Option.getD_some, List.count_cons_self]
        omega
      · simp [h]
  simpa [tally] using hfold ∅

theorem mem_repeated {names : List String} {name : String} :
    name ∈ repeated names ↔ 1 < names.count name := by
  have hcount := getD_tally names name
  simp only [repeated, List.mem_map, List.mem_filter, Prod.exists, decide_eq_true_eq,
    exists_and_right, exists_eq_right, Std.ExtTreeMap.mem_toList_iff_getElem?_eq_some]
  constructor
  · rintro ⟨n, hn, hlt⟩
    rw [hn, Option.getD_some] at hcount
    omega
  · intro hlt
    cases hn : (tally names)[name]? with
    | none =>
      rw [hn, Option.getD_none] at hcount
      omega
    | some n =>
      rw [hn, Option.getD_some] at hcount
      exact ⟨n, rfl, by omega⟩

lemma nodup_of_repeated {names : List String} (h : repeated names = []) : names.Nodup := by
  rw [List.nodup_iff_count_le_one]
  intro name
  have hname : name ∉ repeated names := by simp [h]
  rw [mem_repeated] at hname
  omega

/-! ### What becomes of each line -/

section

variable {changes : PendingChanges} {line : List Char} {w : Written}

lemma eq_sentinel_of_kind (h : kind line = .sentinel) : line = sentinel := by
  unfold kind at h
  split_ifs at h with _ hs
  exact hs

/-- What becomes of a line, by what it is. -/
inductive Edited (changes : PendingChanges) (line : List Char) : Written → Prop
  | sentinel (h : line = ListText.sentinel) :
      Edited changes line ⟨changes.additions.map additionLine ++ [line], changes.additions⟩
  | dropped {e : Entry} (h : nameOf? line = some e.name) (hr : changes.removes e.name = true) :
      Edited changes line {}
  | kept {e : Entry} (h : nameOf? line = some e.name) (hr : changes.removes e.name = false) :
      Edited changes line ⟨[line], [e.name]⟩
  | other (hs : line ≠ ListText.sentinel) (h : nameOf? line = none) :
      Edited changes line ⟨[line], []⟩

lemma edited_of_editLine (h : editLine changes line = .ok w) : Edited changes line w := by
  rw [editLine] at h
  cases hk : kind line with
  | sentinel =>
    rw [hk] at h
    obtain rfl := Except.ok.inj h
    exact .sentinel (eq_sentinel_of_kind hk)
  | other =>
    rw [hk] at h
    obtain rfl := Except.ok.inj h
    have hs : line ≠ sentinel := by
      rintro rfl
      exact absurd hk (by decide)
    exact .other hs (by simp [nameOf?, hk])
  | entry =>
    rw [hk] at h
    cases he : entryOf line with
    | error f => simp [he, bind, Except.bind] at h
    | ok e =>
      have hname : nameOf? line = some e.name := by simp [nameOf?, hk, he, Except.toOption]
      simp only [he, bind, Except.bind, pure, Except.pure, Except.ok.injEq] at h
      split_ifs at h with hr
      · exact h ▸ .dropped hname hr
      · exact h ▸ .kept hname (Bool.eq_false_iff.mpr hr)

lemma mem_of_mem_lines (h : Edited changes line w) {l : List Char} (hl : l ∈ w.lines) :
    l = line ∨ ∃ name ∈ changes.additions, l = additionLine name := by
  cases h with
  | sentinel h =>
    rcases List.mem_append.mp hl with hl | hl
    · obtain ⟨name, hname, rfl⟩ := List.mem_map.mp hl
      exact .inr ⟨name, hname, rfl⟩
    · exact .inl (List.mem_singleton.mp hl)
  | dropped => simp at hl
  | kept | other => exact .inl (List.mem_singleton.mp hl)

lemma Edited.names_eq (h : Edited changes line w)
    (hv : ∀ name ∈ changes.additions, Verbatim name) : w.names = w.lines.filterMap nameOf? := by
  cases h with
  | sentinel h =>
    have hname : ∀ name ∈ changes.additions, (nameOf? ∘ additionLine) name = some name := by
      intro name hname
      rw [Function.comp_apply, nameOf?_additionLine (hv name hname)]
    have hadded : (changes.additions.map additionLine).filterMap nameOf? = changes.additions := by
      rw [List.filterMap_map, List.filterMap_congr hname, List.filterMap_some]
    have hline : [line].filterMap nameOf? = [] := by
      rw [h, List.filterMap_cons_none nameOf?_sentinel, List.filterMap_nil]
    rw [List.filterMap_append, hadded, hline, List.append_nil]
  | dropped => rfl
  | kept h => rw [List.filterMap_cons_some h, List.filterMap_nil]
  | other _ h => rw [List.filterMap_cons_none h, List.filterMap_nil]

lemma Edited.added_of_removes (h : Edited changes line w)
    (hv : ∀ name ∈ changes.additions, Verbatim name) {l : List Char} (hl : l ∈ w.lines)
    {name : String} (hname : nameOf? l = some name) (hr : changes.removes name = true) :
    name ∈ changes.additions ∧ l = additionLine name := by
  rcases mem_of_mem_lines h hl with rfl | ⟨added, hadded, rfl⟩
  · cases h with
    | sentinel h => simp [h, nameOf?_sentinel] at hname
    | dropped => simp at hl
    | kept h hkept =>
      obtain rfl := Option.some.inj (h.symm.trans hname)
      simp [hr] at hkept
    | other _ h => simp [h] at hname
  · rw [nameOf?_additionLine (hv added hadded)] at hname
    obtain rfl := Option.some.inj hname
    exact ⟨hadded, rfl⟩

end

/-! ### The whole text -/

section

variable {changes : PendingChanges} {ls : List (List Char)} {ws : List Written}

lemma edited_of_mapM (h : ls.mapM (editLine changes) = .ok ws) :
    List.Forall₂ (Edited changes) ls ws := by
  induction ls generalizing ws with
  | nil =>
    obtain rfl := Except.ok.inj h
    exact .nil
  | cons l ls ih =>
    rw [List.mapM_cons] at h
    cases hw : editLine changes l with
    | error f => simp [hw, bind, Except.bind] at h
    | ok w =>
      cases hm : ls.mapM (editLine changes) with
      | error f => simp [hw, hm, bind, Except.bind] at h
      | ok rest =>
        simp only [hw, hm, bind, Except.bind, pure, Except.pure, Except.ok.injEq] at h
        exact h ▸ .cons (edited_of_editLine hw) (ih hm)

lemma names_of_edited (h : List.Forall₂ (Edited changes) ls ws)
    (hv : ∀ name ∈ changes.additions, Verbatim name) :
    ws.flatMap Written.names = (ws.flatMap Written.lines).filterMap nameOf? := by
  induction h with
  | nil => rfl
  | cons hw _ ih =>
    rw [List.flatMap_cons, List.flatMap_cons, List.filterMap_append, ih, hw.names_eq hv]

lemma exists_edited_of_mem (h : List.Forall₂ (Edited changes) ls ws) {l : List Char}
    (hl : l ∈ ws.flatMap Written.lines) :
    ∃ line ∈ ls, ∃ w, Edited changes line w ∧ l ∈ w.lines := by
  induction h with
  | nil => simp at hl
  | cons hw _ ih =>
    rw [List.flatMap_cons, List.mem_append] at hl
    rcases hl with hl | hl
    · exact ⟨_, List.mem_cons_self, _, hw, hl⟩
    · obtain ⟨line, hline, hedited⟩ := ih hl
      exact ⟨line, List.mem_cons_of_mem _ hline, hedited⟩

lemma mem_lines_of_sentinel (h : List.Forall₂ (Edited changes) ls ws) (hs : sentinel ∈ ls)
    {name : String} (hname : name ∈ changes.additions) :
    additionLine name ∈ ws.flatMap Written.lines := by
  induction h with
  | nil => simp at hs
  | cons hw _ ih =>
    rw [List.flatMap_cons, List.mem_append]
    rcases List.mem_cons.mp hs with rfl | hs
    · left
      cases hw with
      | sentinel => exact List.mem_append_left _ (List.mem_map_of_mem hname)
      | dropped h | kept h => simp [nameOf?_sentinel] at h
      | other h => exact absurd rfl h
    · exact .inr (ih hs)

end

lemma exists_written {contents : String} {changes : PendingChanges} {updated : Updated}
    (h : update contents changes = .ok updated) :
    ∃ ws, (linesOf contents).mapM (editLine changes) = .ok ws ∧
      updated = ⟨ofLines (ws.flatMap Written.lines), repeated (ws.flatMap Written.names)⟩ := by
  rw [update] at h
  cases hm : (linesOf contents).mapM (editLine changes) with
  | error f => simp [hm, bind, Except.bind] at h
  | ok ws =>
    simp only [hm, bind, Except.bind, pure, Except.pure, Except.ok.injEq] at h
    exact ⟨ws, rfl, h.symm⟩

lemma linesOf_ofLines {ls : List (List Char)} (h : ∀ l ∈ ls, '\n' ∉ l) :
    linesOf (ofLines ls) = if ls = [] then [[]] else ls := by
  split_ifs with hne
  · rw [hne]
    rfl
  · exact linesOf_closed hne h

/-- What an edit that succeeds has done, where the names that are added need no escapes. -/
theorem update_applies_changes {contents : String} {changes : PendingChanges} {updated : Updated}
    (h : update contents changes = .ok updated) :
    (sentinel ∈ linesOf contents → ∀ name ∈ changes.additions, Verbatim name →
      ∃ line ∈ linesOf updated.contents, ∃ e, HoldsEntry true line e ∧ e.name = name) ∧
    ((∀ name ∈ changes.additions, Verbatim name) →
      (∀ line ∈ linesOf updated.contents, ∀ e, HoldsEntry true line e →
        changes.removes e.name = true → e.name ∈ changes.additions ∧ line = additionLine e.name) ∧
      (updated.duplicates = [] → (linesOf updated.contents).Pairwise fun line line' =>
        ∀ e e', HoldsEntry true line e → HoldsEntry true line' e' → e.name ≠ e'.name)) := by
  obtain ⟨ws, hm, rfl⟩ := exists_written h
  have hedited := edited_of_mapM hm
  refine ⟨?_, fun hv => ?_⟩
  · intro hs name hname hverbatim
    have hmem := mem_lines_of_sentinel hedited hs hname
    exact ⟨_, mem_linesOf_ofLines hmem (unbroken_additionLine hverbatim), _,
      holdsEntry_additionLine hverbatim, rfl⟩
  · have hunbroken : ∀ l ∈ ws.flatMap Written.lines, '\n' ∉ l := by
      intro l hl
      obtain ⟨line, hline, w, hw, hlw⟩ := exists_edited_of_mem hedited hl
      rcases mem_of_mem_lines hw hlw with rfl | ⟨name, hname, rfl⟩
      · exact not_mem_of_mem_linesOf hline
      · exact unbroken_additionLine (hv name hname)
    dsimp only
    rw [linesOf_ofLines hunbroken]
    constructor
    · intro line hline e he hr
      -- a text without lines still has one, an empty one
      have hmem : line ∈ ws.flatMap Written.lines := by
        split_ifs at hline with hne
        · obtain ⟨inner, rfl, -⟩ := he
          simp [objectLine] at hline
        · exact hline
      obtain ⟨origin, -, w, hw, hlw⟩ := exists_edited_of_mem hedited hmem
      exact hw.added_of_removes hv hlw he.nameOf?_eq hr
    · intro hnone
      have hnodup := nodup_of_repeated hnone
      rw [names_of_edited hedited hv, List.Nodup, List.pairwise_filterMap] at hnodup
      split_ifs with hne
      · simp
      · exact hnodup.imp fun hdistinct e e' he he' =>
          hdistinct _ he.nameOf?_eq _ he'.nameOf?_eq

lemma update_sentinel (changes : PendingChanges) :
    update (.ofList sentinel) changes = .ok ⟨
      ofLines (changes.additions.map additionLine ++ [sentinel]), repeated changes.additions⟩ := by
  have hunbroken : '\n' ∉ sentinel := by decide
  have hlast : sentinel.getLast? ≠ some '\n' := by decide
  have hkind : kind sentinel = .sentinel := by decide
  have hlines : linesOf (.ofList sentinel) = [sentinel] := by
    rw [linesOf, String.toList_ofList, stripEnd_of_getLast?_ne hlast, splitAt_of_not_mem hunbroken]
  simp [update, hlines, editLine, hkind, bind, Except.bind, pure, Except.pure]

def lastLine : String :=
  "    \x7b\"name\":\"a\"\x7d"

def lastEntry : Entry where
  name := "a"

lemma holdsEntry_lastLine (comma : Bool) :
    HoldsEntry comma (lastLine.toList ++ if comma then [','] else []) lastEntry := by
  refine ⟨"\"name\":\"a\"".toList, ?_, by decide +kernel⟩
  cases comma <;> decide

namespace Marked

/-- An entry above the sentinel. -/
def contents : String :=
  lastLine ++ ",\n" ++ .ofList sentinel

def changes : PendingChanges :=
  ⟨["b"], ["a"], []⟩

def updated : Updated where
  contents := ofLines [additionLine "b", sentinel]
  duplicates := []

theorem entry_replaced :
    update contents changes = .ok updated ∧
      (∃ line ∈ linesOf updated.contents, ∃ e, HoldsEntry true line e ∧ e.name = "b") ∧
      ∀ line ∈ linesOf updated.contents, ∀ e, HoldsEntry true line e → e.name ≠ "a" := by
  have hv : ∀ name ∈ changes.additions, Verbatim name := by decide
  have hu : update contents changes = .ok updated := by decide +kernel
  have hlines : linesOf contents = [lastLine.toList ++ [','], sentinel] := by decide +kernel
  have hsentinel : sentinel ∈ linesOf contents := by simp [hlines]
  obtain ⟨hadded, hedited⟩ := update_applies_changes hu
  obtain ⟨hremoved, -⟩ := hedited hv
  refine ⟨hu, hadded hsentinel "b" (by decide) (hv "b" (by decide)), ?_⟩
  intro line hline e he hname
  have hmem := (hremoved line hline e he (by rw [hname]; decide)).1
  rw [hname] at hmem
  exact absurd hmem (by decide)

end Marked

namespace Unmarked

/-- A list without the sentinel, with a name on two lines of which the second has no comma. -/
def contents : String :=
  "\x7b\"entries\":[\n" ++ lastLine ++ ",\n" ++ lastLine ++ "\n]\x7d\n"

def rest : String :=
  "\x7b\"entries\":[\n" ++ lastLine ++ "\n]\x7d\n"

/-- Nothing is added without a sentinel, and what a line without a comma holds is neither taken off
nor counted. A name on both sides is added, and one that needs an escape is written as it is. -/
theorem changes_left_out :
    update contents ⟨["b"], [], []⟩ = .ok ⟨contents, []⟩ ∧
      PreloadList.parse contents = .ok ⟨[lastEntry, lastEntry]⟩ ∧
      linesOf contents = ["\x7b\"entries\":[".toList, lastLine.toList ++ [','], lastLine.toList,
        "]\x7d".toList] ∧
      HoldsEntry true (lastLine.toList ++ [',']) lastEntry ∧
      update contents ⟨[], ["a"], []⟩ = .ok ⟨rest, []⟩ ∧
      lastLine.toList ∈ linesOf rest ∧ HoldsEntry false lastLine.toList lastEntry ∧
      update (.ofList sentinel) ⟨["b"], ["b"], []⟩ =
        .ok ⟨ofLines [additionLine "b", sentinel], []⟩ ∧
      HoldsEntry true (additionLine "b") (.addition "b") ∧
      update (.ofList sentinel) ⟨["\""], [], []⟩ =
        .ok ⟨ofLines [additionLine "\"", sentinel], []⟩ ∧
      nameOf? (additionLine "\"") = none := by
  have hverbatim : Verbatim "b" := by decide
  have hnone : repeated ["b"] = [] ∧ repeated ["\""] = [] := by decide +kernel
  have hlines : linesOf rest = ["\x7b\"entries\":[".toList, lastLine.toList, "]\x7d".toList] := by
    decide +kernel
  have hboth := update_sentinel ⟨["b"], ["b"], []⟩
  have hescaped := update_sentinel ⟨["\""], [], []⟩
  rw [hnone.1] at hboth
  rw [hnone.2] at hescaped
  have hlast := holdsEntry_lastLine false
  rw [if_neg Bool.false_ne_true, List.append_nil] at hlast
  exact ⟨by decide +kernel, by decide +kernel, by decide +kernel, holdsEntry_lastLine true,
    by decide +kernel, by simp [hlines], hlast, hboth, holdsEntry_additionLine hverbatim, hescaped,
    by decide +kernel⟩

end Unmarked

end HstsPreload.ListText
