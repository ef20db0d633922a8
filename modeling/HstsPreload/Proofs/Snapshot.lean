import HstsPreload.PreloadList
import Mathlib.Data.List.Nodup

/-!
# The entries a snapshot stands for

A snapshot may list a name several times, also in entries that are not enforced. The entry
that counts for a name is the first enforced one; the list of entries and the index both
consist of exactly these.
-/

namespace HstsPreload.PreloadList

/-- The first entry of a name that browsers enforce. -/
def first? (l : PreloadList) (name : String) : Option Entry :=
  l.entries.find? fun e => e.isHsts && e.name == name

lemma name_of_first? {l : PreloadList} {name : String} {e : Entry} (h : l.first? name = some e) :
    e.name = name := by
  have hp := List.find?_some h
  simp only [Bool.and_eq_true, beq_iff_eq] at hp
  exact hp.2

lemma exists_of_first? {l : PreloadList} {name : String} {e : Entry}
    (h : l.first? name = some e) : e ∈ l.entries ∧ e.isHsts = true ∧ e.name = name := by
  have hp := List.find?_some h
  simp only [Bool.and_eq_true, beq_iff_eq] at hp
  exact ⟨List.mem_of_find?_eq_some h, hp⟩

lemma first?_eq_find?_filter (l : PreloadList) (name : String) :
    l.first? name = (l.entries.filter Entry.isHsts).find? fun e => e.name == name := by
  rw [List.find?_filter, first?]
  congr 1
  funext e
  rw [Bool.decide_and, Bool.decide_eq_true, Bool.decide_eq_true]

lemma mem_firstOfEach (seen : Std.ExtTreeSet String) (es : List Entry) (e : Entry) :
    e ∈ firstOfEach seen es ↔
      e.name ∉ seen ∧ es.find? (fun e' => e'.name == e.name) = some e := by
  induction es generalizing seen with
  | nil => simp [firstOfEach]
  | cons d es ih =>
    rw [firstOfEach]
    by_cases hd : d.name ∈ seen
    · rw [if_pos hd, ih]
      refine and_congr_right fun he => ?_
      have hne : d.name ≠ e.name := fun h => he (h ▸ hd)
      rw [List.find?_cons_of_neg (by simpa using hne)]
    · rw [if_neg hd, List.mem_cons, ih, Std.ExtTreeSet.mem_insert,
        Std.LawfulEqOrd.compare_eq_iff_eq]
      by_cases hde : d.name = e.name
      · rw [List.find?_cons_of_pos (by simpa using hde)]
        constructor
        · rintro (rfl | ⟨hn, -⟩)
          · exact ⟨hd, rfl⟩
          · exact (hn (.inl hde)).elim
        · rintro ⟨-, h⟩
          exact .inl (Option.some.inj h).symm
      · rw [List.find?_cons_of_neg (by simpa using hde)]
        constructor
        · rintro (rfl | ⟨hn, h⟩)
          · exact (hde rfl).elim
          · exact ⟨fun hs => hn (.inr hs), h⟩
        · rintro ⟨hs, h⟩
          exact .inr ⟨fun hn => hn.elim hde hs, h⟩

lemma nodup_firstOfEach (seen : Std.ExtTreeSet String) (es : List Entry) :
    ((firstOfEach seen es).map Entry.name).Nodup := by
  induction es generalizing seen with
  | nil => exact List.nodup_nil
  | cons d es ih =>
    rw [firstOfEach]
    split
    · exact ih seen
    · rw [List.map_cons, List.nodup_cons]
      refine ⟨?_, ih _⟩
      intro h
      obtain ⟨e, he, hn⟩ := List.mem_map.mp h
      have hs := ((mem_firstOfEach _ _ _).mp he).1
      rw [hn] at hs
      exact hs Std.ExtTreeSet.mem_insert_self

lemma mem_hstsEntries (l : PreloadList) (e : Entry) :
    e ∈ l.hstsEntries ↔ l.first? e.name = some e := by
  rw [hstsEntries, mem_firstOfEach, first?_eq_find?_filter]
  simp

lemma nodup_hstsEntries (l : PreloadList) : (l.hstsEntries.map Entry.name).Nodup :=
  nodup_firstOfEach _ _

lemma getElem?_foldl_insertIfNew (index : Std.ExtTreeMap String Entry) (es : List Entry)
    (name : String) :
    (es.foldl (fun index e => index.insertIfNew e.name e) index)[name]? =
      index[name]?.or (es.find? fun e => e.name == name) := by
  induction es generalizing index with
  | nil => simp
  | cons d es ih =>
    rw [List.foldl_cons, ih, Std.ExtTreeMap.getElem?_insertIfNew]
    simp only [Std.LawfulEqOrd.compare_eq_iff_eq, Std.ExtTreeMap.mem_iff_isSome_getElem?]
    by_cases hd : d.name = name
    · subst hd
      cases hi : index[d.name]? <;> simp
    · simp [hd]

lemma getElem?_hstsIndex (l : PreloadList) (name : String) :
    l.hstsIndex[name]? = l.first? name := by
  rw [hstsIndex, getElem?_foldl_insertIfNew, first?_eq_find?_filter]
  simp

end HstsPreload.PreloadList
