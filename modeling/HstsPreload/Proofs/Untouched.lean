import HstsPreload.Proofs.Outcomes
import HstsPreload.Proofs.Rewriting

/-!
# What an edit leaves alone

An edit is refused for the first line that looks like an entry and cannot be read. Otherwise the new
text is the old one without the lines whose entries are taken off, with the added lines above each
sentinel; every other line stays as it is, in its place. The names that are reported are those that
the new text then has more than once.
-/

namespace HstsPreload

namespace ListText

open HstsPreload.Json HstsPreload.Text

/-! ### What a line looks like -/

/-- Four spaces, an opening brace, and somewhere behind it a closing brace with a comma. -/
def EntryShaped (line : List Char) : Prop :=
  ∃ inner rest, line = "    \x7b".toList ++ (inner ++ '\x7d' :: ',' :: rest)

/-- Any number of spaces, and two slashes. -/
def CommentShaped (line : List Char) : Prop :=
  ∃ n rest, line = List.replicate n ' ' ++ '/' :: '/' :: rest

lemma closesEntry_iff {cs : List Char} :
    closesEntry cs = true ↔ ∃ inner rest, cs = inner ++ '\x7d' :: ',' :: rest := by
  constructor
  · intro h
    induction cs with
    | nil => cases h
    | cons c cs ih =>
      rw [closesEntry, Bool.or_eq_true, Bool.and_eq_true, decide_eq_true_eq, decide_eq_true_eq] at h
      rcases h with ⟨rfl, hhead⟩ | h
      · obtain ⟨rest, rfl⟩ := List.head?_eq_some_iff.mp hhead
        exact ⟨[], rest, rfl⟩
      · obtain ⟨inner, rest, rfl⟩ := ih h
        exact ⟨c :: inner, rest, rfl⟩
  · rintro ⟨inner, rest, rfl⟩
    exact closesEntry_append inner rest

lemma isEntry_iff {line : List Char} : isEntry line = true ↔ EntryShaped line := by
  constructor
  · intro h
    obtain ⟨tail, rfl⟩ := exists_of_isEntry h
    rw [isEntry, Bool.and_eq_true] at h
    obtain ⟨inner, rest, htail⟩ := closesEntry_iff.mp h.2
    exact ⟨inner, rest, congrArg ("    \x7b".toList ++ ·) htail⟩
  · rintro ⟨inner, rest, rfl⟩
    exact closesEntry_append inner rest

lemma isComment_iff {line : List Char} : isComment line = true ↔ CommentShaped line := by
  have hspace : ∀ c ∈ line.takeWhile (· = ' '), c = ' ' := by
    intro c hc
    simpa using List.all_eq_true.mp List.all_takeWhile c hc
  rw [isComment, beq_iff_eq]
  constructor
  · intro h
    have hsplit : line = line.takeWhile (· = ' ') ++ line.dropWhile (· = ' ') :=
      List.takeWhile_append_dropWhile.symm
    have hslashes := List.take_append_drop 2 (line.dropWhile (· = ' '))
    rw [h] at hslashes
    refine ⟨(line.takeWhile (· = ' ')).length, (line.dropWhile (· = ' ')).drop 2, ?_⟩
    rw [← List.eq_replicate_of_mem hspace]
    exact hsplit.trans (congrArg (_ ++ ·) hslashes.symm)
  · rintro ⟨n, rest, rfl⟩
    rw [List.dropWhile_append_of_pos (by simp)]
    rfl

lemma kind_eq_entry_iff {line : List Char} :
    kind line = .entry ↔ EntryShaped line ∧ ¬CommentShaped line := by
  rw [← isEntry_iff, ← isComment_iff, kind]
  by_cases hc : isComment line = true
  · rw [if_pos hc]
    by_cases hs : line = sentinel
    · simp [if_pos hs, hc]
    · simp [if_neg hs, hc]
  · rw [if_neg hc]
    by_cases he : isEntry line = true
    · simp [he, hc]
    · simp [he]

def TakenForEntry (line : List Char) : Prop :=
  EntryShaped line ∧ ¬CommentShaped line

/-- A line that is taken for an entry, and what it holds without its comma is refused. -/
def Unreadable (line : List Char) (error : Json.Error) : Prop :=
  TakenForEntry line ∧ Entry.parse (.ofList (stripEnd ',' line)) = .error error

/-- A line that is taken for an entry, and what it holds without its comma is one of that name. -/
def Bears (line : List Char) (name : String) : Prop :=
  TakenForEntry line ∧ ∃ e, Entry.parse (.ofList (stripEnd ',' line)) = .ok e ∧ e.name = name

def Removed (changes : PendingChanges) (line : List Char) : Prop :=
  ∃ name, Bears line name ∧ changes.removes name = true

lemma entryOf_eq_error_iff {line : List Char} {fault : EntryFault} :
    entryOf line = .error fault ↔ ∃ error,
      Entry.parse (.ofList (stripEnd ',' line)) = .error error ∧ fault = ⟨.ofList line, error⟩ := by
  unfold entryOf
  cases Entry.parse (.ofList (stripEnd ',' line)) with
  | error error => simp [Except.mapError, eq_comm]
  | ok e => simp [Except.mapError]

lemma entryOf_eq_ok_iff {line : List Char} {e : Entry} :
    entryOf line = .ok e ↔ Entry.parse (.ofList (stripEnd ',' line)) = .ok e := by
  unfold entryOf
  cases Entry.parse (.ofList (stripEnd ',' line)) with
  | error error => simp [Except.mapError]
  | ok e => simp [Except.mapError]

lemma nameOf?_eq_some_iff {line : List Char} {name : String} :
    nameOf? line = some name ↔ Bears line name := by
  unfold nameOf? Bears TakenForEntry
  rw [← kind_eq_entry_iff]
  by_cases hk : kind line = .entry
  · rw [if_pos hk, Option.map_eq_some_iff]
    simp only [hk, true_and, ← entryOf_eq_ok_iff]
    cases entryOf line <;> simp [Except.toOption]
  · simp [hk]

instance (line : List Char) (name : String) : Decidable (Bears line name) :=
  decidable_of_iff _ nameOf?_eq_some_iff

lemma removed_iff {changes : PendingChanges} {line : List Char} :
    Removed changes line ↔ (nameOf? line).any changes.removes = true := by
  simp only [Removed, ← nameOf?_eq_some_iff, Option.any_eq_true]

instance (changes : PendingChanges) : DecidablePred (Removed changes) :=
  fun _ => decidable_of_iff _ removed_iff.symm

lemma not_removed_sentinel (changes : PendingChanges) : ¬Removed changes sentinel := by
  rw [removed_iff, nameOf?_sentinel]
  exact Bool.false_ne_true

lemma not_unreadable_sentinel (error : Json.Error) : ¬Unreadable sentinel error := by
  rintro ⟨htaken, -⟩
  exact absurd (kind_eq_entry_iff.mpr htaken) (by decide)

lemma Bears.not_unreadable {line : List Char} {name : String} (h : Bears line name)
    (error : Json.Error) : ¬Unreadable line error := by
  rintro ⟨-, herror⟩
  obtain ⟨-, e, he, -⟩ := h
  rw [he] at herror
  cases herror

/-! ### One line, and then all of them -/

/-- Lines with some others directly above each sentinel. -/
def withAbove (block ls : List (List Char)) : List (List Char) :=
  ls.flatMap fun l => (if l = sentinel then block else []) ++ [l]

/-- The names of additions and of the entries on lines, in the order in which they are written. -/
def namesWithAbove (additions : List String) (ls : List (List Char)) : List String :=
  ls.flatMap fun l => (if l = sentinel then additions else []) ++ (nameOf? l).toList

lemma withAbove_nil (ls : List (List Char)) : withAbove [] ls = ls := by
  simp [withAbove]

def remaining (changes : PendingChanges) (ls : List (List Char)) : List (List Char) :=
  ls.filter fun l => ¬Removed changes l

section

variable {changes : PendingChanges} {line : List Char}

lemma editLine_eq_error_iff {fault : EntryFault} :
    editLine changes line = .error fault ↔
      ∃ error, Unreadable line error ∧ fault = ⟨.ofList line, error⟩ := by
  unfold Unreadable TakenForEntry
  rw [← kind_eq_entry_iff, editLine]
  cases hk : kind line with
  | sentinel | other => simp
  | entry =>
    simp only [true_and, ← entryOf_eq_error_iff]
    cases entryOf line <;> simp [bind, Except.bind, pure, Except.pure]

/-- What is written for a line that can be read. -/
def rewrittenLine (changes : PendingChanges) (line : List Char) : Written where
  lines := withAbove (changes.additions.map additionLine) (remaining changes [line])
  names := namesWithAbove changes.additions (remaining changes [line])

lemma editLine_eq_ok (h : ∀ error, ¬Unreadable line error) :
    editLine changes line = .ok (rewrittenLine changes line) := by
  cases hw : editLine changes line with
  | error fault =>
    obtain ⟨error, hbad, -⟩ := editLine_eq_error_iff.mp hw
    exact (h error hbad).elim
  | ok w =>
    apply congrArg Except.ok
    cases edited_of_editLine hw with
    | sentinel h =>
      subst h
      simp [rewrittenLine, remaining, withAbove, namesWithAbove, not_removed_sentinel,
        nameOf?_sentinel]
    | dropped hname hr =>
      have hremoved : Removed changes line := ⟨_, nameOf?_eq_some_iff.mp hname, hr⟩
      simp [rewrittenLine, remaining, hremoved, withAbove, namesWithAbove]
    | kept hname hr =>
      have hstays : ¬Removed changes line := by simp [removed_iff, hname, hr]
      have hs : line ≠ sentinel := by
        rintro rfl
        rw [nameOf?_sentinel] at hname
        cases hname
      simp [rewrittenLine, remaining, hstays, withAbove, namesWithAbove, hs, hname]
    | other hs hname =>
      have hstays : ¬Removed changes line := by simp [removed_iff, hname]
      simp [rewrittenLine, remaining, hstays, withAbove, namesWithAbove, hs, hname]

lemma editLine_eq_ok_iff :
    (∃ w, editLine changes line = .ok w) ↔ ∀ error, ¬Unreadable line error := by
  constructor
  · rintro ⟨w, hw⟩ error hbad
    have hfault : editLine changes line = .error ⟨.ofList line, error⟩ :=
      editLine_eq_error_iff.mpr ⟨error, hbad, rfl⟩
    rw [hw] at hfault
    cases hfault
  · intro h
    exact ⟨_, editLine_eq_ok h⟩

lemma remaining_append (ls ls' : List (List Char)) :
    remaining changes (ls ++ ls') = remaining changes ls ++ remaining changes ls' :=
  List.filter_append ls ls'

lemma remaining_cons (l : List Char) (ls : List (List Char)) :
    remaining changes (l :: ls) = remaining changes [l] ++ remaining changes ls :=
  remaining_append [l] ls

lemma lines_rewritten (ls : List (List Char)) :
    (ls.map (rewrittenLine changes)).flatMap Written.lines =
      withAbove (changes.additions.map additionLine) (remaining changes ls) := by
  induction ls with
  | nil => rfl
  | cons l ls ih =>
    rw [List.map_cons, List.flatMap_cons, ih, remaining_cons]
    exact List.flatMap_append.symm

lemma names_rewritten (ls : List (List Char)) :
    (ls.map (rewrittenLine changes)).flatMap Written.names =
      namesWithAbove changes.additions (remaining changes ls) := by
  induction ls with
  | nil => rfl
  | cons l ls ih =>
    rw [List.map_cons, List.flatMap_cons, ih, remaining_cons]
    exact List.flatMap_append.symm

lemma update_eq_error_iff {contents : String} {fault : EntryFault} :
    update contents changes = .error fault ↔ ∃ before line after,
      linesOf contents = before ++ line :: after ∧
      (∀ l ∈ before, ∀ error, ¬Unreadable l error) ∧
      ∃ error, Unreadable line error ∧ fault = ⟨.ofList line, error⟩ := by
  have hmap : update contents changes = .error fault ↔
      (linesOf contents).mapM (editLine changes) = .error fault := by
    rw [update]
    cases (linesOf contents).mapM (editLine changes) <;>
      simp [bind, Except.bind, pure, Except.pure]
  rw [hmap, mapM_eq_error_iff]
  simp only [editLine_eq_ok_iff, editLine_eq_error_iff]

/-- What an edit makes of lines that can be read. -/
def rewritten (changes : PendingChanges) (ls : List (List Char)) : Updated where
  contents := ofLines (withAbove (changes.additions.map additionLine) (remaining changes ls))
  duplicates := repeated (namesWithAbove changes.additions (remaining changes ls))

lemma update_eq_ok {contents : String}
    (h : ∀ line ∈ linesOf contents, ∀ error, ¬Unreadable line error) :
    update contents changes = .ok (rewritten changes (linesOf contents)) := by
  have hlines : (linesOf contents).mapM (editLine changes) =
      .ok ((linesOf contents).map (rewrittenLine changes)) :=
    mapM_eq_ok fun line hline => editLine_eq_ok (h line hline)
  rw [update, hlines]
  change Except.ok _ = _
  rw [lines_rewritten, names_rewritten]
  rfl

/-- An edit succeeds if each line that is taken for an entry holds one, and then it is made to the
letter. -/
theorem update_eq_ok_iff {contents : String} {updated : Updated} :
    update contents changes = .ok updated ↔
      (∀ line ∈ linesOf contents, ∀ error, ¬Unreadable line error) ∧
        updated = rewritten changes (linesOf contents) := by
  constructor
  · intro h
    have hread : ∀ line ∈ linesOf contents, ∀ error, ¬Unreadable line error := by
      obtain ⟨ws, hws, -⟩ := exists_written h
      intro line hline
      exact editLine_eq_ok_iff.mp (exists_ok_of_mapM hws line hline)
    rw [update_eq_ok hread] at h
    exact ⟨hread, (Except.ok.inj h).symm⟩
  · rintro ⟨h, rfl⟩
    exact update_eq_ok h

/-! ### What is left and what is reported -/

def closed (contents : String) : String :=
  if contents.toList.getLast? = some '\n' then contents else contents ++ "\n"

lemma ofLines_linesOf (contents : String) : ofLines (linesOf contents) = closed contents := by
  have hjoin : (ofLines (linesOf contents)).toList = stripEnd '\n' contents.toList ++ ['\n'] := by
    rw [ofLines, String.toList_ofList, linesOf, flatMap_append_sep (splitAt_ne_nil _ _),
      joinWith_splitAt]
  rw [← String.toList_inj, hjoin, closed]
  by_cases h : contents.toList.getLast? = some '\n'
  · rw [if_pos h]
    obtain ⟨start, hstart⟩ := List.getLast?_eq_some_iff.mp h
    rw [hstart, stripEnd_concat]
  · rw [if_neg h, stripEnd_of_getLast?_ne h, String.toList_append]
    rfl

lemma linesOf_ofList {line : List Char} (hfeed : '\n' ∉ line) : linesOf (.ofList line) = [line] := by
  have hlast : line.getLast? ≠ some '\n' := fun h => hfeed (List.mem_of_getLast? h)
  rw [linesOf, String.toList_ofList, stripEnd_of_getLast?_ne hlast, splitAt_of_not_mem hfeed]

lemma pairwise_repeated (names : List String) : (repeated names).Pairwise (· < ·) := by
  unfold repeated
  rw [List.pairwise_map]
  apply List.Pairwise.filter
  apply (@Std.ExtTreeMap.ordered_keys_toList _ _ _ (tally names) _).imp
  intro a b hlt
  exact compareOfLessAndEq_eq_lt.mp hlt

lemma count_namesWithAbove (additions : List String) (ls : List (List Char)) (name : String) :
    (namesWithAbove additions ls).count name =
      ls.count sentinel * additions.count name + ls.countP fun l => Bears l name := by
  induction ls with
  | nil => simp [namesWithAbove]
  | cons l ls ih =>
    have hcons : namesWithAbove additions (l :: ls) =
        (if l = sentinel then additions else []) ++ (nameOf? l).toList
          ++ namesWithAbove additions ls := rfl
    have hborne : (nameOf? l).toList.count name = if Bears l name then 1 else 0 := by
      simp only [← nameOf?_eq_some_iff]
      cases nameOf? l with
      | none => rfl
      | some n => by_cases hn : n = name <;> simp [hn]
    rw [hcons, List.count_append, List.count_append, ih, hborne, List.count_cons,
      List.countP_cons]
    by_cases hs : l = sentinel
    · simp only [hs, if_true, beq_self_eq_true, decide_eq_true_eq]
      rw [Nat.add_mul]
      omega
    · simp only [if_neg hs, List.count_nil, beq_iff_eq, decide_eq_true_eq, Nat.add_zero]
      omega

lemma mem_withAbove {block ls : List (List Char)} {l : List Char} :
    l ∈ withAbove block ls ↔ l ∈ ls ∨ sentinel ∈ ls ∧ l ∈ block := by
  rw [withAbove, List.mem_flatMap]
  constructor
  · rintro ⟨line, hline, hl⟩
    rcases List.mem_append.mp hl with hl | hl
    · by_cases hs : line = sentinel
      · rw [if_pos hs] at hl
        exact .inr ⟨hs ▸ hline, hl⟩
      · simp [if_neg hs] at hl
    · exact .inl (List.mem_singleton.mp hl ▸ hline)
  · rintro (hl | ⟨hs, hl⟩)
    · exact ⟨l, hl, by simp⟩
    · exact ⟨sentinel, hs, by simp [hl]⟩

lemma linesOf_rewritten {ls : List (List Char)} (hls : ∀ l ∈ ls, '\n' ∉ l)
    (hadded : ∀ name ∈ changes.additions, '\n' ∉ name.toList) (hne : remaining changes ls ≠ []) :
    linesOf (rewritten changes ls).contents =
      withAbove (changes.additions.map additionLine) (remaining changes ls) := by
  apply linesOf_closed
  · obtain ⟨l, hl⟩ := List.exists_mem_of_ne_nil _ hne
    exact List.ne_nil_of_mem (mem_withAbove.mpr (.inl hl))
  · intro l hl
    rcases mem_withAbove.mp hl with hl | ⟨-, hl⟩
    · exact hls l (List.mem_of_mem_filter hl)
    · obtain ⟨name, hname, rfl⟩ := List.mem_map.mp hl
      exact not_mem_additionLine (hadded name hname)

lemma update_again {contents : String} {updated : Updated} (hnone : changes.additions = [])
    (h : update contents changes = .ok updated) (hne : updated.contents ≠ "") :
    update updated.contents changes = .ok updated := by
  obtain ⟨hread, rfl⟩ := update_eq_ok_iff.mp h
  have hkept : remaining changes (linesOf contents) ≠ [] := by
    intro hnil
    apply hne
    rw [rewritten, hnil]
    rfl
  have hlines : linesOf (rewritten changes (linesOf contents)).contents =
      remaining changes (linesOf contents) := by
    rw [linesOf_rewritten (fun _ => not_mem_of_mem_linesOf) (by simp [hnone]) hkept, hnone,
      List.map_nil, withAbove_nil]
  have hagain : remaining changes (remaining changes (linesOf contents)) =
      remaining changes (linesOf contents) := by
    simp [remaining, List.filter_filter]
  apply update_eq_ok_iff.mpr
  rw [hlines]
  refine ⟨fun l hl => hread l (List.mem_of_mem_filter hl), ?_⟩
  simp only [rewritten, hagain]

end

/-- What an edit does to a text. It is refused if and only if some line that is taken for an entry
holds none, and tells of the first. Otherwise the new text has the lines of the old one without those
whose entries are taken off, in order, with what is added directly above each sentinel, and the
names that are reported are those that it has more than once. -/
theorem update_frame (contents : String) (changes : PendingChanges) :
    ((∃ fault, update contents changes = .error fault) ↔
      ∃ line ∈ linesOf contents, ∃ error, Unreadable line error) ∧
    (∀ fault, update contents changes = .error fault → ∃ before line after,
      linesOf contents = before ++ line :: after ∧ (∀ l ∈ before, ∀ error, ¬Unreadable l error) ∧
      ∃ error, Unreadable line error ∧ fault = ⟨.ofList line, error⟩) ∧
    ofLines (linesOf contents) = closed contents ∧
    ∀ updated, update contents changes = .ok updated →
      let kept := (linesOf contents).filter fun line => ¬Removed changes line
      updated.contents = ofLines (withAbove (changes.additions.map additionLine) kept) ∧
      (changes = {} → updated.contents = closed contents) ∧
      (changes.additions = [] → updated.contents ≠ "" →
        update updated.contents changes = .ok updated) ∧
      updated.duplicates.Pairwise (· < ·) ∧
      ∀ name, name ∈ updated.duplicates ↔
        1 < (linesOf contents).count sentinel * changes.additions.count name
          + kept.countP fun line => Bears line name := by
  have hfault : ∀ fault, update contents changes = .error fault → ∃ before line after,
      linesOf contents = before ++ line :: after ∧ (∀ l ∈ before, ∀ error, ¬Unreadable l error) ∧
      ∃ error, Unreadable line error ∧ fault = ⟨.ofList line, error⟩ :=
    fun fault => update_eq_error_iff.mp
  refine ⟨?_, hfault, ofLines_linesOf contents, ?_⟩
  · constructor
    · rintro ⟨fault, h⟩
      obtain ⟨before, line, after, hsplit, -, error, hbad, -⟩ := hfault fault h
      exact ⟨line, hsplit ▸ List.mem_append_right before List.mem_cons_self, error, hbad⟩
    · rintro ⟨line, hline, error, hbad⟩
      cases h : update contents changes with
      | error fault => exact ⟨fault, rfl⟩
      | ok updated => exact ((update_eq_ok_iff.mp h).1 line hline error hbad).elim
  · intro updated h kept
    have hagain := fun hnone => update_again hnone h
    obtain ⟨-, rfl⟩ := update_eq_ok_iff.mp h
    refine ⟨rfl, ?_, hagain, pairwise_repeated _, ?_⟩
    · rintro rfl
      have hkept : remaining {} (linesOf contents) = linesOf contents :=
        List.filter_eq_self.mpr fun line _ => by simp [Removed, PendingChanges.removes]
      rw [rewritten, List.map_nil, withAbove_nil, hkept, ofLines_linesOf]
    · intro name
      have hsentinel : kept.count sentinel = (linesOf contents).count sentinel :=
        List.count_filter (by simpa using not_removed_sentinel changes)
      rw [← hsentinel, ← count_namesWithAbove]
      exact mem_repeated

namespace Doubled

def contents : String :=
  ofLines [lastLine.toList ++ [','], sentinel, sentinel]

def changes : PendingChanges :=
  ⟨["b"], ["a"], []⟩

def broken : List Char :=
  "    \x7bx\x7d,".toList

lemma unreadable_broken : Unreadable broken ⟨.keyNotString, ⟨1, 6⟩⟩ := by
  refine ⟨kind_eq_entry_iff.mp ?_, rfl⟩
  decide

theorem added_twice :
    (∃ updated, update contents changes = .ok updated ∧
      updated.contents = ofLines [additionLine "b", sentinel, additionLine "b", sentinel] ∧
      "b" ∈ updated.duplicates ∧ "a" ∉ updated.duplicates) ∧
    ∃ fault, update (.ofList broken) changes = .error fault ∧ fault.line = .ofList broken := by
  have hlines : linesOf contents = [lastLine.toList ++ [','], sentinel, sentinel] :=
    linesOf_closed (List.cons_ne_nil _ _) (by decide)
  have hbroken : linesOf (.ofList broken) = [broken] := linesOf_ofList (by decide)
  have hborne : Bears (lastLine.toList ++ [',']) "a" :=
    nameOf?_eq_some_iff.mp (holdsEntry_lastLine true).nameOf?_eq
  have hremoved : Removed changes (lastLine.toList ++ [',']) := ⟨"a", hborne, by decide⟩
  have hkept : (linesOf contents).filter (fun line => ¬Removed changes line) =
      [sentinel, sentinel] := by
    rw [hlines]
    simp [hremoved, not_removed_sentinel]
  have hnone : ∀ name, ¬Bears sentinel name := by
    intro name
    simp [← nameOf?_eq_some_iff, nameOf?_sentinel]
  have htwice : (linesOf contents).count sentinel = 2 := by
    rw [hlines]
    decide
  have hread : ∀ line ∈ linesOf contents, ∀ error, ¬Unreadable line error := by
    rw [hlines]
    simp only [List.forall_mem_cons]
    exact ⟨hborne.not_unreadable, not_unreadable_sentinel, not_unreadable_sentinel, by simp⟩
  obtain ⟨-, -, -, hupdated⟩ := update_frame contents changes
  obtain ⟨hcontents, -, -, -, hduplicates⟩ := hupdated _ (update_eq_ok hread)
  obtain ⟨hfails, hfirst, -, -⟩ := update_frame (.ofList broken) changes
  rw [hkept] at hcontents hduplicates
  refine ⟨⟨_, update_eq_ok hread, hcontents, ?_, ?_⟩, ?_⟩
  · rw [hduplicates, htwice]
    simp [hnone, changes]
  · rw [hduplicates, htwice]
    simp [hnone, changes]
  · obtain ⟨fault, hfault⟩ := hfails.mpr ⟨broken, by simp [hbroken], _, unreadable_broken⟩
    obtain ⟨before, line, after, hsplit, -, error, -, rfl⟩ := hfirst fault hfault
    rw [hbroken] at hsplit
    have hline : line ∈ [broken] := hsplit ▸ List.mem_append_right before List.mem_cons_self
    exact ⟨_, hfault, by rw [List.mem_singleton.mp hline]⟩

end Doubled

end ListText

end HstsPreload
