import HstsPreload.Plan
import HstsPreload.Proofs.Outcomes
import HstsPreload.Proofs.Padding
import HstsPreload.Proofs.Snapshot
import Mathlib.Data.List.Induction
import Mathlib.Tactic.Lemma

/-!
# First entries, in the list and in the index

New records are made from the list of preloaded entries, old ones are compared with the index.
The list is followed here from the front of the snapshot: one more entry at its end is kept just
when it is enforced and no enforced entry before it has its name. So the list grows at its end
only, the places of its entries are known, and the index is read off it.
-/

namespace HstsPreload.PreloadList

/-- The entry at this place is enforced, and none before it is enforced under its name. -/
structure LeadsAt (es : List Entry) (i : Nat) (e : Entry) : Prop where
  stands : es[i]? = some e
  enforced : e.isHsts = true
  first : ∀ d ∈ es.take i, d.isHsts = true → d.name ≠ e.name

section OneMore

variable {es : List Entry} {d e : Entry} {i : Nat}

lemma LeadsAt.lt (h : LeadsAt es i e) : i < es.length :=
  (List.getElem?_eq_some_iff.mp h.stands).1

lemma leadsAt_concat_iff_of_lt (hi : i < es.length) :
    LeadsAt (es ++ [d]) i e ↔ LeadsAt es i e := by
  have hget : (es ++ [d])[i]? = es[i]? := List.getElem?_append_left hi
  have htake : (es ++ [d]).take i = es.take i := List.take_append_of_le_length (Nat.le_of_lt hi)
  constructor
  · rintro ⟨hstands, henforced, hfirst⟩
    exact ⟨hget ▸ hstands, henforced, htake ▸ hfirst⟩
  · rintro ⟨hstands, henforced, hfirst⟩
    exact ⟨hget.symm ▸ hstands, henforced, htake.symm ▸ hfirst⟩

lemma leadsAt_concat_length_iff : LeadsAt (es ++ [d]) es.length e ↔
    e = d ∧ d.isHsts = true ∧ d.name ∉ (es.filter Entry.isHsts).map Entry.name := by
  have hnames : d.name ∉ (es.filter Entry.isHsts).map Entry.name ↔
      ∀ c ∈ es, c.isHsts = true → c.name ≠ d.name := by
    simp [List.mem_map, List.mem_filter]
  rw [hnames]
  constructor
  · rintro ⟨hstands, henforced, hfirst⟩
    rw [List.getElem?_concat_length, Option.some.injEq] at hstands
    rw [List.take_left] at hfirst
    exact ⟨hstands.symm, hstands ▸ henforced, hstands ▸ hfirst⟩
  · rintro ⟨rfl, henforced, hfirst⟩
    refine ⟨List.getElem?_concat_length, henforced, ?_⟩
    rwa [List.take_left]

lemma LeadsAt.concat (h : LeadsAt es i e) : LeadsAt (es ++ [d]) i e :=
  (leadsAt_concat_iff_of_lt h.lt).mpr h

lemma LeadsAt.concat_cases (h : LeadsAt (es ++ [d]) i e) :
    LeadsAt es i e ∨ i = es.length ∧ e = d := by
  have hlt := h.lt
  rw [List.length_append, List.length_singleton] at hlt
  rcases Nat.lt_succ_iff_lt_or_eq.mp hlt with hi | rfl
  · exact .inl ((leadsAt_concat_iff_of_lt hi).mp h)
  · exact .inr ⟨rfl, (leadsAt_concat_length_iff.mp h).1⟩

/-- One more entry at the end is kept unless its name has been seen, there or before. -/
lemma firstOfEach_concat (seen : Std.ExtTreeSet String) (es : List Entry) (d : Entry) :
    firstOfEach seen (es ++ [d]) =
      firstOfEach seen es ++ if d.name ∈ seen ∨ d.name ∈ es.map Entry.name then [] else [d] := by
  induction es generalizing seen with
  | nil => simp [firstOfEach]
  | cons c es ih =>
    rw [List.cons_append, firstOfEach, firstOfEach, List.map_cons]
    by_cases hc : c.name ∈ seen
    · -- a name that has been seen adds nothing to those that later entries may not have
      have hseen : d.name ∈ seen ∨ d.name ∈ es.map Entry.name ↔
          d.name ∈ seen ∨ d.name ∈ c.name :: es.map Entry.name := by
        rw [List.mem_cons]
        constructor
        · exact fun h => h.imp_right .inr
        · rintro (h | h | h)
          · exact .inl h
          · exact .inl (h ▸ hc)
          · exact .inr h
      rw [if_pos hc, if_pos hc, ih]
      simp only [hseen]
    · have hseen : d.name ∈ seen.insert c.name ∨ d.name ∈ es.map Entry.name ↔
          d.name ∈ seen ∨ d.name ∈ c.name :: es.map Entry.name := by
        rw [Std.ExtTreeSet.mem_insert, Std.LawfulEqOrd.compare_eq_iff_eq, List.mem_cons,
          eq_comm, or_assoc, or_left_comm]
      rw [if_neg hc, if_neg hc, ih, List.cons_append]
      simp only [hseen]

lemma hstsEntries_concat_of_leads (h : LeadsAt (es ++ [d]) es.length d) :
    hstsEntries ⟨es ++ [d]⟩ = hstsEntries ⟨es⟩ ++ [d] := by
  obtain ⟨-, henforced, hname⟩ := leadsAt_concat_length_iff.mp h
  have hfresh : ¬(d.name ∈ (∅ : Std.ExtTreeSet String) ∨
      d.name ∈ (es.filter Entry.isHsts).map Entry.name) :=
    not_or.mpr ⟨Std.ExtTreeSet.not_mem_empty, hname⟩
  dsimp only [hstsEntries]
  rw [List.filter_append, List.filter_cons_of_pos henforced, List.filter_nil, firstOfEach_concat,
    if_neg hfresh]

lemma hstsEntries_concat_of_not_leads (h : ¬LeadsAt (es ++ [d]) es.length d) :
    hstsEntries ⟨es ++ [d]⟩ = hstsEntries ⟨es⟩ := by
  dsimp only [hstsEntries]
  rw [List.filter_append]
  by_cases henforced : d.isHsts = true
  · have hname : d.name ∈ (es.filter Entry.isHsts).map Entry.name := by
      by_contra hname
      exact h (leadsAt_concat_length_iff.mpr ⟨rfl, henforced, hname⟩)
    rw [List.filter_cons_of_pos henforced, List.filter_nil, firstOfEach_concat,
      if_pos (.inr hname), List.append_nil]
  · rw [List.filter_cons_of_neg henforced, List.filter_nil, List.append_nil]

end OneMore

/-- The preloaded entries stand, in order, at the places of the enforced entries that are the first
of their name, and at all of these. -/
lemma exists_places (es : List Entry) : ∃ places : List Nat, places.Pairwise (· < ·) ∧
    List.Forall₂ (LeadsAt es) places (hstsEntries ⟨es⟩) ∧
      ∀ i e, LeadsAt es i e → i ∈ places := by
  induction es using List.reverseRecOn with
  | nil => exact ⟨[], .nil, .nil, fun i e h => (Nat.not_lt_zero i h.lt).elim⟩
  | append_singleton es d ih =>
    obtain ⟨places, hascending, hleads, hall⟩ := ih
    have hbelow : ∀ i ∈ places, i < es.length := by
      intro i hi
      obtain ⟨e, -, he⟩ := exists_of_mem_left hleads hi
      exact he.lt
    have hkept : List.Forall₂ (LeadsAt (es ++ [d])) places (hstsEntries ⟨es⟩) :=
      hleads.imp fun i e h => h.concat
    by_cases hd : LeadsAt (es ++ [d]) es.length d
    · refine ⟨places ++ [es.length], ?_, ?_, fun i e h => ?_⟩
      · exact List.pairwise_append.mpr ⟨hascending, List.pairwise_singleton _ _,
          fun i hi j hj => List.mem_singleton.mp hj ▸ hbelow i hi⟩
      · rw [hstsEntries_concat_of_leads hd]
        exact List.rel_append hkept (.cons hd .nil)
      · rw [List.mem_append, List.mem_singleton]
        exact h.concat_cases.imp (hall i e) And.left
    · refine ⟨places, hascending, ?_, fun i e h => ?_⟩
      · rw [hstsEntries_concat_of_not_leads hd]
        exact hkept
      · rcases h.concat_cases with hi | ⟨rfl, rfl⟩
        · exact hall i e hi
        · exact (hd h).elim

lemma prefix_hstsEntries_append (es more : List Entry) :
    hstsEntries ⟨es⟩ <+: hstsEntries ⟨es ++ more⟩ := by
  induction more using List.reverseRecOn with
  | nil => simp
  | append_singleton more d ih =>
    rw [← List.append_assoc]
    by_cases hd : LeadsAt (es ++ more ++ [d]) (es ++ more).length d
    · rw [hstsEntries_concat_of_leads hd]
      exact ih.trans (List.prefix_append _ _)
    · rw [hstsEntries_concat_of_not_leads hd]
      exact ih

lemma firstOfEach_sublist (seen : Std.ExtTreeSet String) (es : List Entry) :
    (firstOfEach seen es).Sublist es := by
  induction es generalizing seen with
  | nil => exact .slnil
  | cons d es ih =>
    rw [firstOfEach]
    split
    · exact (ih seen).cons d
    · exact (ih _).cons_cons d

lemma hstsEntries_sublist (l : PreloadList) : l.hstsEntries.Sublist l.entries :=
  (firstOfEach_sublist _ _).trans List.filter_sublist

section Index

variable {l : PreloadList} {name : String} {e : Entry}

lemma getElem?_hstsIndex_eq_some_iff :
    l.hstsIndex[name]? = some e ↔ e ∈ l.hstsEntries ∧ e.name = name := by
  rw [getElem?_hstsIndex, mem_hstsEntries]
  constructor
  · intro h
    have hname := name_of_first? h
    exact ⟨hname ▸ h, hname⟩
  · rintro ⟨h, rfl⟩
    exact h

lemma mem_hstsIndex_iff : name ∈ l.hstsIndex ↔ name ∈ l.hstsEntries.map Entry.name := by
  rw [Std.ExtTreeMap.mem_iff_isSome_getElem?, Option.isSome_iff_exists, List.mem_map]
  simp only [getElem?_hstsIndex_eq_some_iff]

lemma getElem?_hstsIndex_append (more : List Entry) (h : name ∈ l.hstsIndex) :
    (hstsIndex ⟨l.entries ++ more⟩)[name]? = l.hstsIndex[name]? := by
  obtain ⟨e, he⟩ := Option.isSome_iff_exists.mp (Std.ExtTreeMap.mem_iff_isSome_getElem?.mp h)
  obtain ⟨hmem, hname⟩ := getElem?_hstsIndex_eq_some_iff.mp he
  rw [he, getElem?_hstsIndex_eq_some_iff]
  exact ⟨(prefix_hstsEntries_append l.entries more).subset hmem, hname⟩

end Index

section Unenforced

variable {l m : PreloadList}

lemma hstsEntries_of_padded (h : Padded (fun d => d.isHsts = false) l.entries m.entries) :
    m.hstsEntries = l.hstsEntries := by
  rw [hstsEntries, hstsEntries, h.filter_congr fun _ hd => hd]

lemma hstsIndex_of_padded (h : Padded (fun d => d.isHsts = false) l.entries m.entries) :
    m.hstsIndex = l.hstsIndex := by
  rw [hstsIndex, hstsIndex, h.filter_congr fun _ hd => hd]

/-- Entries that are not enforced show in a plan only where all entries are counted. -/
theorem build_of_padded (h : Padded (fun d => d.isHsts = false) l.entries m.entries)
    (preloaded pendingRemoval pendingAutomatedRemoval : List Record) :
    Plan.build m preloaded pendingRemoval pendingAutomatedRemoval =
      { Plan.build l preloaded pendingRemoval pendingAutomatedRemoval with
        listEntries := m.entries.length } := by
  simp only [Plan.build, hstsEntries_of_padded h, hstsIndex_of_padded h]

end Unenforced

/-- The preloaded entries are those at the places, in order, where an enforced entry is the first of
its name, so that no name comes twice. The index has just their names and holds the same entries.
Entries put at the end leave in place what is chosen for the names there are, and entries that are
not enforced change neither the list nor the index, wherever they are put. -/
theorem index_and_list_agree (l : PreloadList) :
    (l.hstsEntries.Sublist l.entries ∧ (l.hstsEntries.map Entry.name).Nodup ∧
      ∃ places : List Nat, places.Pairwise (· < ·) ∧
        List.Forall₂ (LeadsAt l.entries) places l.hstsEntries ∧
        ∀ i e, LeadsAt l.entries i e → i ∈ places) ∧
    ((∀ name, name ∈ l.hstsIndex ↔ name ∈ l.hstsEntries.map Entry.name) ∧
      ∀ e ∈ l.hstsEntries, l.hstsIndex[e.name]? = some e) ∧
    (∀ more : List Entry, l.hstsEntries <+: hstsEntries ⟨l.entries ++ more⟩ ∧
      ∀ name ∈ l.hstsIndex,
        (hstsIndex ⟨l.entries ++ more⟩)[name]? = l.hstsIndex[name]?) ∧
    ∀ m : PreloadList, Padded (fun d => d.isHsts = false) l.entries m.entries →
      m.hstsEntries = l.hstsEntries ∧ m.hstsIndex = l.hstsIndex := by
  refine ⟨⟨hstsEntries_sublist l, nodup_hstsEntries l, exists_places l.entries⟩,
    ⟨fun name => mem_hstsIndex_iff, fun e he => ?_⟩, fun more => ⟨?_, fun name hname => ?_⟩,
    fun m h => ⟨hstsEntries_of_padded h, hstsIndex_of_padded h⟩⟩
  · exact getElem?_hstsIndex_eq_some_iff.mpr ⟨he, rfl⟩
  · exact prefix_hstsEntries_append l.entries more
  · exact getElem?_hstsIndex_append more hname

namespace Repeating

def pinned : Entry := ⟨"a.example", .unspecified, .unspecified, true⟩

def first : Entry := ⟨"a.example", .bulk1Year, .forceHttps, true⟩

def other : Entry := ⟨"b.example", .custom, .forceHttps, false⟩

def again : Entry := ⟨"a.example", .custom, .forceHttps, false⟩

theorem first_of_repeated_stays :
    let l : PreloadList := ⟨[first, other, again]⟩
    let m : PreloadList := ⟨[pinned, first, other, pinned, again]⟩
    LeadsAt l.entries 1 other ∧ first ∈ l.hstsEntries ∧ "a.example" ∈ l.hstsIndex ∧
      Padded (fun d => d.isHsts = false) l.entries m.entries ∧
      (∃ places : List Nat, places.Pairwise (· < ·) ∧
        List.Forall₂ (LeadsAt l.entries) places [first, other] ∧ 1 ∈ places) ∧
      l.hstsIndex["a.example"]? = some first ∧
      (hstsIndex ⟨l.entries ++ [again]⟩)["a.example"]? = some first ∧
      m.hstsEntries = [first, other] ∧ m.hstsIndex["a.example"]? = some first := by
  intro l m
  obtain ⟨⟨-, -, places, hascending, hleads, hall⟩, ⟨-, hheld⟩, hmore, hpadded⟩ :=
    index_and_list_agree l
  have hlist : l.hstsEntries = [first, other] := by decide
  have hother : LeadsAt l.entries 1 other := ⟨rfl, rfl, by decide⟩
  have hfirst : first ∈ l.hstsEntries := by decide
  have hname : "a.example" ∈ l.hstsIndex := by decide
  have hput : Padded (fun d => d.isHsts = false) l.entries m.entries :=
    .insert rfl (.keep _ (.keep _ (.insert rfl (.keep _ .nil))))
  obtain ⟨hentries, hindex⟩ := hpadded m hput
  refine ⟨hother, hfirst, hname, hput, ⟨places, hascending, hlist ▸ hleads, hall 1 other hother⟩,
    hheld first hfirst, ?_, hentries.trans hlist, ?_⟩
  · rw [(hmore [again]).2 _ hname]
    exact hheld first hfirst
  · rw [hindex]
    exact hheld first hfirst

end Repeating

end HstsPreload.PreloadList
