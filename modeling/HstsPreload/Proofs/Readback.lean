import HstsPreload.Proofs.Readers
import HstsPreload.Proofs.Untouched

/-!
# Reading what was written

A name is written between quotation marks as it is. The line is then one of an entry, and the entry
is of that name exactly if nothing in the name has to be escaped: otherwise the string ends too
early, holds a character that it must not hold, or has a backslash that is taken for an escape.
-/

namespace HstsPreload

open HstsPreload.Json HstsPreload.Text

namespace Json

section Strings

variable {done text rest : List Char} {st : StringState}

lemma escapeChar_of_plain {c : Char} (hq : c ≠ '"') (hs : c ≠ '\\') (hctl : ¬c.toNat < 32) :
    escapeChar c = [c] := by
  have htab : c ≠ '\t' := by rintro rfl; exact hctl (by decide)
  have hfeed : c ≠ '\n' := by rintro rfl; exact hctl (by decide)
  have hreturn : c ≠ '\r' := by rintro rfl; exact hctl (by decide)
  rw [escapeChar, if_neg hq, if_neg hs, if_neg (by omega), if_neg htab, if_neg hfeed,
    if_neg (by omega), if_neg hreturn, if_neg hctl]

/-- What one character of a string that can be read is: its end, a character that stands for
itself, or part of an escape, of which the last gives a character and the others none. -/
lemma readStringFrom_cons {c : Char} {cs : List Char}
    (h : readStringFrom done st (c :: cs) = .ok (text, rest)) :
    (st = .plain ∧ c = '"' ∧ text = done.reverse ∧ rest = cs) ∨
    (st = .plain ∧ escapeChar c = [c] ∧ readStringFrom (c :: done) .plain cs = .ok (text, rest)) ∨
    (∃ st', (st' = .escaped → c = '\\') ∧ readStringFrom done st' cs = .ok (text, rest)) ∨
    st ≠ .plain ∧ ∃ e, readStringFrom (e :: done) .plain cs = .ok (text, rest) := by
  cases st with
  | plain =>
    rw [readStringFrom] at h
    split_ifs at h with hq hs hctl
    · cases h
      exact .inl ⟨rfl, hq, rfl, rfl⟩
    · exact .inr (.inr (.inl ⟨.escaped, fun _ => hs, h⟩))
    · exact .inr (.inl ⟨rfl, escapeChar_of_plain hq hs hctl, h⟩)
  | escaped =>
    rw [readStringFrom] at h
    split_ifs at h with hu
    · exact .inr (.inr (.inl ⟨_, StringState.noConfusion, h⟩))
    · split at h
      · exact .inr (.inr (.inr ⟨StringState.noConfusion, _, h⟩))
      · cases h
  | digits left n leading =>
    rw [readStringFrom] at h
    split at h
    · cases h
    · split_ifs at h with hleft
      · exact .inr (.inr (.inl ⟨_, StringState.noConfusion, h⟩))
      · split at h
        · exact .inr (.inr (.inr ⟨StringState.noConfusion, _, h⟩))
        · exact .inr (.inr (.inl ⟨_, StringState.noConfusion, h⟩))
        · cases h
  | paired l =>
    rw [readStringFrom] at h
    split_ifs at h with hs
    exact .inr (.inr (.inl ⟨_, StringState.noConfusion, h⟩))
  | pairedEscape l =>
    rw [readStringFrom] at h
    split_ifs at h with hu
    exact .inr (.inr (.inl ⟨_, StringState.noConfusion, h⟩))

lemma length_lt_of_readStringFrom {cs : List Char}
    (h : readStringFrom done st cs = .ok (text, rest)) :
    text.length + rest.length < done.length + cs.length := by
  induction cs generalizing done st with
  | nil => cases st <;> cases h
  | cons c cs ih =>
    rw [List.length_cons]
    rcases readStringFrom_cons h with ⟨-, -, rfl, rfl⟩ | ⟨-, -, h'⟩ | ⟨st', -, h'⟩ | ⟨-, e, h'⟩
    · rw [List.length_reverse]
      omega
    · have hlt := ih h'
      rw [List.length_cons] at hlt
      omega
    · have hlt := ih h'
      omega
    · have hlt := ih h'
      rw [List.length_cons] at hlt
      omega

lemma escapeChar_of_readStringFrom {cs : List Char}
    (h : readStringFrom done .plain cs = .ok (text, rest))
    (hlength : done.length + cs.length ≤ text.length + rest.length + 1) :
    ∃ new, text = done.reverse ++ new ∧ ∀ c ∈ new, escapeChar c = [c] := by
  induction cs generalizing done with
  | nil => cases h
  | cons c cs ih =>
    rw [List.length_cons] at hlength
    rcases readStringFrom_cons h with ⟨-, -, rfl, -⟩ | ⟨-, hc, h'⟩ | ⟨st', -, h'⟩ | ⟨hne, -⟩
    · exact ⟨[], by simp⟩
    · obtain ⟨new, rfl, hnew⟩ := ih h' (by rw [List.length_cons]; omega)
      exact ⟨c :: new, by simp, List.forall_mem_cons.mpr ⟨hc, hnew⟩⟩
    · -- what comes of an escape is shorter than the escape, so too much has been read
      have hlt := length_lt_of_readStringFrom h'
      omega
    · exact (hne rfl).elim

/-- Where a string ends that has a mark put behind it: at that mark or before, or, if its last
character is a backslash, at the next mark. -/
lemma rest_of_readStringFrom {cs more : List Char}
    (h : readStringFrom done st (cs ++ '"' :: ',' :: ' ' :: '"' :: more) = .ok (text, rest)) :
    more.length + 3 ≤ rest.length ∨
      text.getLast? = some ' ' ∧ (cs = [] ∧ st = .escaped ∨ cs.getLast? = some '\\') := by
  induction cs generalizing done st with
  | nil =>
    cases st with
    | plain =>
      cases h
      exact .inl (by simp)
    | escaped =>
      cases h
      exact .inr ⟨by simp, .inl ⟨rfl, rfl⟩⟩
    | _ => cases h
  | cons c cs ih =>
    have hlast : cs.getLast? = some '\\' → (c :: cs).getLast? = some '\\' := by
      intro hcs
      rw [List.getLast?_cons, hcs]
      rfl
    rw [List.cons_append] at h
    rcases readStringFrom_cons h with ⟨-, -, -, rfl⟩ | ⟨-, -, h'⟩ | ⟨st', hc, h'⟩ | ⟨-, e, h'⟩
    · left
      simp
      omega
    · rcases ih h' with hrest | ⟨htext, ⟨-, hst⟩ | hcs⟩
      · exact .inl hrest
      · cases hst
      · exact .inr ⟨htext, .inr (hlast hcs)⟩
    · rcases ih h' with hrest | ⟨htext, ⟨rfl, hst⟩ | hcs⟩
      · exact .inl hrest
      · exact .inr ⟨htext, .inr (by rw [hc hst]; rfl)⟩
      · exact .inr ⟨htext, .inr (hlast hcs)⟩
    · rcases ih h' with hrest | ⟨htext, ⟨-, hst⟩ | hcs⟩
      · exact .inl hrest
      · cases hst
      · exact .inr ⟨htext, .inr (hlast hcs)⟩

lemma verbatim_of_readStringTail {name : String} {more rest : List Char}
    (h : readStringTail (name.toList ++ '"' :: ',' :: ' ' :: '"' :: more) = .ok (name, rest)) :
    Verbatim name := by
  have hread : readStringFrom [] .plain (name.toList ++ '"' :: ',' :: ' ' :: '"' :: more) =
      .ok (name.toList, rest) := by
    unfold readStringTail at h
    cases hr : readStringFrom [] .plain (name.toList ++ '"' :: ',' :: ' ' :: '"' :: more) with
    | error f => simp [hr, bind, Except.bind] at h
    | ok result =>
      obtain ⟨text, rest'⟩ := result
      simp only [hr, bind, Except.bind, pure, Except.pure, Except.ok.injEq, Prod.mk.injEq] at h
      rw [← h.1, ← h.2, String.toList_ofList]
  have hrest : more.length + 3 ≤ rest.length := by
    rcases rest_of_readStringFrom hread with hrest | ⟨hspace, ⟨-, hst⟩ | hslash⟩
    · exact hrest
    · cases hst
    · -- a name that is read up to the next mark ends in a space, and in a backslash
      rw [hspace] at hslash
      cases hslash
  obtain ⟨new, hnew, hplain⟩ := escapeChar_of_readStringFrom hread (by simp; omega)
  rw [List.reverse_nil, List.nil_append] at hnew
  rw [Verbatim, hnew]
  exact hplain

end Strings

section

variable {σ : Type} {kind : RecordKind σ}

lemma readMembers_known {m : Member σ} {d : σ} {first : Bool} {name : String}
    {cs key unread rest value : List Char} (hkey : nextKey first cs = .ok (some key, unread))
    (hname : readStringTail key = .ok (name, rest)) (hm : kind.find? name = some m)
    (hfresh : m.present d = false) (hcolon : readColon rest = .ok value) (fuel : Nat) :
    kind.readMembers (fuel + 1) first d cs =
      m.read d value >>= fun r => kind.readMembers fuel false r.1 r.2 := by
  simp [RecordKind.readMembers, hkey, hname, hm, hfresh, hcolon, bind, Except.bind]

end

end Json

namespace Entry

lemma name_of_read {m : Member Draft} (hm : m ∈ kind.members) {d d' : Draft} {name : String}
    {cs rest : List Char} (hd : d.name = some name) (hfresh : m.present d = false)
    (h : m.read d cs = .ok (d', rest)) : d'.name = some name := by
  simp only [kind, List.mem_cons, List.not_mem_nil, or_false] at hm
  rcases hm with rfl | rfl | rfl | rfl
  · simp [Member.field, hd] at hfresh
  all_goals
    refine Member.keeps_field_of_set (P := fun d : Draft => d.name = some name) _ _ ?_ _ _ _ _ hd h
    exact fun _ _ hd => hd

lemma name_of_readMembers {fuel : Nat} {first : Bool} {d d' : Draft} {name : String}
    {cs rest : List Char} (hd : d.name = some name)
    (h : kind.readMembers fuel first d cs = .ok (d', rest)) : d'.name = some name :=
  RecordKind.keeps_readMembers (P := fun d => d.name = some name)
    (fun _ hm _ _ _ _ hfresh hd hread => name_of_read hm hd hfresh hread) hd h

lemma name_of_parse {cs : List Char} {e : Entry}
    (h : Entry.parse (.ofList ("    \x7b \"name\": \"".toList ++ cs)) = .ok e) :
    ∃ rest, readStringTail cs = .ok (e.name, rest) := by
  obtain ⟨_, hread⟩ := exists_of_readAll h
  rw [String.toList_ofList] at hread
  obtain ⟨⟨d, _⟩, hmembers, he⟩ := exists_of_bind_ok hread
  have hbrace : kind.read ("    \x7b \"name\": \"".toList ++ cs) =
      kind.readMembers (cs.length + 11) true {} (" \"name\": \"".toList ++ cs) := rfl
  have hkey : nextKey true (" \"name\": \"".toList ++ cs) =
      .ok (some ("name\": \"".toList ++ cs), "name\": \"".toList ++ cs) := rfl
  have htitle : readStringTail ("name\": \"".toList ++ cs) =
      .ok ("name", ": \"".toList ++ cs) := rfl
  have hfind : kind.find? "name" = some (.field "name" true Draft.name
      (fun d a => { d with name := some a }) readString) := rfl
  have hcolon : readColon (": \"".toList ++ cs) = .ok (" \"".toList ++ cs) := rfl
  have hstring : readString (" \"".toList ++ cs) = readStringTail cs := rfl
  rw [hbrace, readMembers_known hkey htitle hfind rfl hcolon] at hmembers
  obtain ⟨⟨d₁, rest⟩, hfield, hmembers⟩ := exists_of_bind_ok hmembers
  obtain ⟨⟨name, _⟩, hname, hd⟩ := exists_of_bind_ok hfield
  cases hd
  have hkept : d.name = some name := name_of_readMembers rfl hmembers
  cases he
  refine ⟨rest, ?_⟩
  rw [← hstring, hname, ofDraft, hkept]
  rfl

end Entry

namespace ListText

/-- What stands between the name and the closing brace on the line that adds it. -/
def attributesText : List Char :=
  "\", \"policy\": \"bulk-1-year\", \"mode\": \"force-https\", \"include_subdomains\": true ".toList

lemma additionLine_eq_append (name : String) :
    additionLine name =
      ("    \x7b \"name\": \"".toList ++ (name.toList ++ (attributesText ++ ['\x7d']))) ++ [','] := by
  have hend : "\", \"policy\": \"bulk-1-year\", \"mode\": \"force-https\", \"include_subdomains\": true \x7d,".toList =
      attributesText ++ ['\x7d'] ++ [','] := by decide
  rw [additionLine, String.toList_append, String.toList_append, hend]
  simp only [List.append_assoc]

lemma takenForEntry_additionLine (name : String) : TakenForEntry (additionLine name) := by
  have hstart : "    \x7b \"name\": \"".toList = "    \x7b".toList ++ " \"name\": \"".toList := by
    decide
  constructor
  · refine ⟨" \"name\": \"".toList ++ (name.toList ++ attributesText), [], ?_⟩
    rw [additionLine_eq_append, hstart]
    simp only [List.append_assoc, List.singleton_append]
  · have hcomment : isComment (additionLine name) = false := by
      rw [additionLine_eq_append, hstart]
      rfl
    rw [← isComment_iff, hcomment]
    exact Bool.false_ne_true

lemma bears_additionLine_iff {name : String} : Bears (additionLine name) name ↔ Verbatim name := by
  have hmark : attributesText = '"' :: ',' :: ' ' :: '"' :: attributesText.drop 4 := by decide
  constructor
  · rintro ⟨-, e, he, rfl⟩
    rw [additionLine_eq_append, stripEnd_concat, hmark] at he
    obtain ⟨rest, hread⟩ := Entry.name_of_parse he
    exact verbatim_of_readStringTail hread
  · intro h
    exact nameOf?_eq_some_iff.mp (nameOf?_additionLine h)

lemma parse_additionLine {name : String} (h : Verbatim name) :
    Entry.parse (.ofList (stripEnd ',' (additionLine name))) = .ok (.addition name) := by
  have hspells := (Entry.addition name).spells_spacedObject (by decide : Blank [' '])
  have hproper : (Entry.addition name).policy.Proper := rfl
  rw [← entryOf_eq_ok_iff, additionLine_eq h]
  exact entryOf_objectLine (Entry.reads hproper hspells)

lemma remaining_withAbove {changes : PendingChanges} {block : List (List Char)}
    (h : ∀ l ∈ block, Removed changes l) (ls : List (List Char)) :
    remaining changes (withAbove block ls) = remaining changes ls := by
  have hblock : remaining changes block = [] :=
    List.filter_eq_nil_iff.mpr fun l hl => by simp [h l hl]
  induction ls with
  | nil => rfl
  | cons l ls ih =>
    have hcons : withAbove block (l :: ls) =
        (if l = sentinel then block else []) ++ l :: withAbove block ls :=
      List.append_assoc _ [l] _
    have hrest : remaining changes (l :: withAbove block ls) = remaining changes (l :: ls) := by
      rw [remaining_cons, ih, ← remaining_cons]
    rw [hcons, remaining_append, hrest]
    by_cases hs : l = sentinel
    · rw [if_pos hs, hblock, List.nil_append]
    · rw [if_neg hs]
      rfl

lemma remaining_remaining (changes later : PendingChanges) (ls : List (List Char)) :
    remaining later (remaining changes ls) =
      ls.filter fun line => ¬Removed changes line ∧ ¬Removed later line := by
  simp [remaining, List.filter_filter, Bool.and_comm]

/-- A line that is added is read as an entry, and as one of the name that is added if and only if
nothing in that name has to be escaped. Additions of such names can be taken off again, all of them
together, and what is left is as if they had not been made. -/
theorem additions_read_back (contents : String) (changes : PendingChanges) (updated : Updated)
    (h : update contents changes = .ok updated) (hs : sentinel ∈ linesOf contents) :
    (∀ name ∈ changes.additions, '\n' ∉ name.toList →
      additionLine name ∈ linesOf updated.contents ∧ TakenForEntry (additionLine name) ∧
      (Bears (additionLine name) name ↔ Verbatim name) ∧
      (Verbatim name →
        Entry.parse (.ofList (stripEnd ',' (additionLine name))) = .ok (.addition name))) ∧
    ∀ later : PendingChanges,
      (∀ name ∈ changes.additions, Verbatim name ∧ later.removes name = true) →
      let kept := (linesOf contents).filter fun line => ¬Removed changes line ∧ ¬Removed later line
      (∀ name ∈ changes.additions, additionLine name ∉ kept) ∧
      ∃ again, update updated.contents later = .ok again ∧
        again.contents = ofLines (withAbove (later.additions.map additionLine) kept) := by
  obtain ⟨hread, rfl⟩ := update_eq_ok_iff.mp h
  have hsentinel : sentinel ∈ remaining changes (linesOf contents) := by
    simp [remaining, hs, not_removed_sentinel]
  constructor
  · intro name hname hfeed
    have hadded : additionLine name ∈
        withAbove (changes.additions.map additionLine) (remaining changes (linesOf contents)) :=
      mem_withAbove.mpr (.inr ⟨hsentinel, List.mem_map_of_mem hname⟩)
    exact ⟨mem_linesOf_ofLines hadded (not_mem_additionLine hfeed), takenForEntry_additionLine name,
      bears_additionLine_iff, parse_additionLine⟩
  · intro later hlater kept
    have hborne : ∀ name ∈ changes.additions, Bears (additionLine name) name :=
      fun name hname => bears_additionLine_iff.mpr (hlater name hname).1
    have hremoved : ∀ l ∈ changes.additions.map additionLine, Removed later l := by
      simp only [List.forall_mem_map]
      exact fun name hname => ⟨name, hborne name hname, (hlater name hname).2⟩
    have hfeed : ∀ name ∈ changes.additions, '\n' ∉ name.toList :=
      fun name hname hm => absurd ((hlater name hname).1 _ hm) (by decide)
    have hlines := linesOf_rewritten (fun _ => not_mem_of_mem_linesOf) hfeed
      (List.ne_nil_of_mem hsentinel)
    have hkept : remaining later (linesOf (rewritten changes (linesOf contents)).contents) = kept := by
      rw [hlines, remaining_withAbove hremoved, remaining_remaining]
    refine ⟨?_, _, update_eq_ok ?_, ?_⟩
    · intro name hname hmem
      have hstays := (List.mem_filter.mp hmem).2
      exact (of_decide_eq_true hstays).2 (hremoved _ (List.mem_map_of_mem hname))
    · rw [hlines]
      intro line hline
      rcases mem_withAbove.mp hline with hline | ⟨-, hline⟩
      · exact hread line (List.mem_of_mem_filter hline)
      · obtain ⟨name, hname, rfl⟩ := List.mem_map.mp hline
        exact (hborne name hname).not_unreadable
    · rw [rewritten, hkept]

/-- The addition of a quotation mark cannot be read back, and spoils the text for every later edit. -/
lemma unreadable_additionLine_quote :
    Unreadable (additionLine "\"") ⟨.expectedObjectEnd, ⟨1, 17⟩⟩ :=
  ⟨takenForEntry_additionLine "\"", rfl⟩

theorem spoilt_by_quote :
    (∃ updated, update (.ofList sentinel) ⟨["b"], [], []⟩ = .ok updated ∧
      additionLine "b" ∈ linesOf updated.contents ∧
      ∃ again, update updated.contents ⟨[], ["b"], []⟩ = .ok again ∧
        again.contents = ofLines [sentinel]) ∧
    ∃ updated, update (.ofList sentinel) ⟨["\""], [], []⟩ = .ok updated ∧
      additionLine "\"" ∈ linesOf updated.contents ∧ ¬Bears (additionLine "\"") "\"" ∧
      ∃ fault, update updated.contents ⟨[], ["\""], []⟩ = .error fault := by
  have hlines : linesOf (.ofList sentinel) = [sentinel] := linesOf_ofList (by decide)
  have hs : sentinel ∈ linesOf (.ofList sentinel) := by simp [hlines]
  have hb := update_sentinel ⟨["b"], [], []⟩
  have hquote := update_sentinel ⟨["\""], [], []⟩
  obtain ⟨hadded, hagain⟩ := additions_read_back _ _ _ hb hs
  obtain ⟨hspoilt, -⟩ := additions_read_back _ _ _ hquote hs
  obtain ⟨hb_mem, -⟩ := hadded "b" (by decide) (by decide)
  obtain ⟨hquote_mem, -, hiff, -⟩ := hspoilt "\"" (by decide) (by decide)
  obtain ⟨-, again, hu, hcontents⟩ := hagain ⟨[], ["b"], []⟩ (by decide)
  have hnot : ¬Bears (additionLine "\"") "\"" := by
    rw [hiff]
    decide
  have htwo : linesOf (ofLines [additionLine "\"", sentinel]) = [additionLine "\"", sentinel] :=
    linesOf_closed (List.cons_ne_nil _ _)
      (by simpa using ⟨not_mem_additionLine (by decide), by decide⟩)
  have hfault : update (ofLines [additionLine "\"", sentinel]) ⟨[], ["\""], []⟩ =
      .error ⟨.ofList (additionLine "\""), ⟨.expectedObjectEnd, ⟨1, 17⟩⟩⟩ :=
    update_eq_error_iff.mpr ⟨[], _, _, htwo, by simp, _, unreadable_additionLine_quote, rfl⟩
  refine ⟨⟨_, hb, hb_mem, again, hu, ?_⟩, _, hquote, hquote_mem, hnot, _, hfault⟩
  rw [hcontents, hlines]
  simp [not_removed_sentinel, withAbove_nil]

end ListText

end HstsPreload
