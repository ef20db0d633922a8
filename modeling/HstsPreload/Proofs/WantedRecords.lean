import HstsPreload.Proofs.Outcomes
import HstsPreload.Wanted
import Mathlib.Data.List.Induction
import Mathlib.Data.List.Nodup
import Mathlib.Data.List.Perm.Subperm
import Mathlib.Tactic.Lemma

/-!
# When records are the wanted ones

The comparison looks wanted records up by name, in a map that keeps one record of each name, and
counts at the end. Wanted names are distinct, so as many records as are wanted, each wanted one
among them, leave no room for a second record of any name.
-/

namespace HstsPreload.Record

structure AsWanted (r wanted : Record) : Prop where
  name : r.name = wanted.name
  status : r.status = wanted.status
  message : wanted.message = "" ∨ r.message = wanted.message

lemma matchesWanted_iff {r wanted : Record} : r.matchesWanted wanted = true ↔ r.AsWanted wanted := by
  simp only [matchesWanted, Bool.and_eq_true, Bool.or_eq_true, beq_iff_eq]
  exact ⟨fun ⟨⟨hname, hstatus⟩, hmessage⟩ => ⟨hname, hstatus, hmessage⟩,
    fun h => ⟨⟨h.name, h.status⟩, h.message⟩⟩

def lastNamed? (records : List Record) (name : String) : Option Record :=
  records.reverse.find? fun r => r.name == name

lemma getElem?_byName (records : List Record) (name : String) :
    (byName records)[name]? = lastNamed? records name := by
  induction records using List.reverseRecOn with
  | nil => rfl
  | append_singleton records r ih =>
    have hbyName : byName (records ++ [r]) = (byName records).insert r.name r := by
      rw [byName, List.foldl_append]
      rfl
    rw [hbyName, Std.ExtTreeMap.getElem?_insert, lastNamed?, List.reverse_append,
      List.reverse_singleton, List.singleton_append, List.find?_cons]
    simp only [Std.LawfulEqOrd.compare_eq_iff_eq]
    by_cases h : r.name = name
    · rw [if_pos h, beq_iff_eq.mpr h]
    · rw [if_neg h, beq_eq_false_iff_ne.mpr h]
      exact ih

lemma mem_of_lastNamed? {records : List Record} {name : String} {r : Record}
    (h : lastNamed? records name = some r) : r ∈ records ∧ r.name = name := by
  have hmem := List.mem_of_find?_eq_some h
  have hname := List.find?_some h
  exact ⟨List.mem_reverse.mp hmem, beq_iff_eq.mp hname⟩

lemma lastNamed?_eq_none_iff {records : List Record} {name : String} :
    lastNamed? records name = none ↔ ∀ r ∈ records, r.name ≠ name := by
  simp [lastNamed?, List.find?_eq_none]

lemma lastNamed?_of_nodup {records : List Record} (hn : (records.map name).Nodup) {r : Record}
    (hr : r ∈ records) : lastNamed? records r.name = some r := by
  cases hl : lastNamed? records r.name with
  | none => exact (lastNamed?_eq_none_iff.mp hl r hr rfl).elim
  | some last =>
    obtain ⟨hmem, hname⟩ := mem_of_lastNamed? hl
    exact congrArg some (List.inj_on_of_nodup_map hn hmem hr hname)

section Repeated

variable {seen : Std.ExtTreeSet String} {records : List Record}

lemma firstRepeated?_eq_none_iff : firstRepeated? seen records = none ↔
    (records.map name).Nodup ∧ ∀ r ∈ records, r.name ∉ seen := by
  induction records generalizing seen with
  | nil => simp [firstRepeated?]
  | cons r rest ih =>
    unfold firstRepeated?
    by_cases hr : r.name ∈ seen
    · simp [hr]
    · rw [if_neg hr, ih, List.map_cons, List.nodup_cons, List.forall_mem_cons]
      simp only [Std.ExtTreeSet.mem_insert, Std.LawfulEqOrd.compare_eq_iff_eq, not_or,
        List.mem_map, not_exists, not_and]
      constructor
      · rintro ⟨hnodup, hfresh⟩
        exact ⟨⟨fun s hs heq => (hfresh s hs).1 heq.symm, hnodup⟩, hr, fun s hs => (hfresh s hs).2⟩
      · rintro ⟨⟨hother, hnodup⟩, -, hfresh⟩
        exact ⟨hnodup, fun s hs => ⟨fun heq => hother s hs heq.symm, hfresh s hs⟩⟩

lemma firstRepeated?_eq_some_iff {name : String} : firstRepeated? seen records = some name ↔
    ∃ before r after, records = before ++ r :: after ∧ firstRepeated? seen before = none ∧
      r.name = name ∧ (name ∈ seen ∨ name ∈ before.map Record.name) := by
  induction records generalizing seen with
  | nil => simp [firstRepeated?]
  | cons r rest ih =>
    by_cases hr : r.name ∈ seen
    · rw [firstRepeated?, if_pos hr, Option.some.injEq]
      constructor
      · rintro rfl
        exact ⟨[], r, rest, rfl, rfl, rfl, .inl hr⟩
      · rintro ⟨before, s, after, hsplit, hnone, hname, -⟩
        cases before with
        | nil => cases hsplit; exact hname
        | cons b before =>
          cases hsplit
          rw [firstRepeated?, if_pos hr] at hnone
          cases hnone
    · rw [firstRepeated?, if_neg hr, ih]
      simp only [Std.ExtTreeSet.mem_insert, Std.LawfulEqOrd.compare_eq_iff_eq]
      constructor
      · rintro ⟨before, s, after, rfl, hnone, hname, hseen⟩
        refine ⟨r :: before, s, after, rfl, by rw [firstRepeated?, if_neg hr, hnone], hname, ?_⟩
        rw [List.map_cons, List.mem_cons]
        tauto
      · rintro ⟨before, s, after, hsplit, hnone, hname, hseen⟩
        cases before with
        | nil =>
          cases hsplit
          simp only [List.map_nil, List.not_mem_nil, or_false] at hseen
          exact (hr (hname ▸ hseen)).elim
        | cons b before =>
          cases hsplit
          rw [firstRepeated?, if_neg hr] at hnone
          refine ⟨before, s, after, rfl, hnone, hname, ?_⟩
          rw [List.map_cons, List.mem_cons] at hseen
          tauto

end Repeated

/-- What is wrong with one wanted record. -/
def unmet? (actual : Std.ExtTreeMap String Record) (w : Record) : Option WantedFault :=
  match actual[w.name]? with
  | none => some (.missing w.name)
  | some r => if r.matchesWanted w then none else some (.mismatch w.name)

lemma firstUnmet?_eq_findSome? (actual : Std.ExtTreeMap String Record) (wanted : List Record) :
    firstUnmet? actual wanted = wanted.findSome? (unmet? actual) := by
  induction wanted with
  | nil => rfl
  | cons w rest ih =>
    rw [firstUnmet?, List.findSome?_cons, unmet?]
    cases actual[w.name]? with
    | none => rfl
    | some r =>
      dsimp only
      split
      · exact ih
      · rfl

/-- The last record of the wanted name is there, and as wanted. -/
def Met (actual : List Record) (w : Record) : Prop :=
  ∃ r, lastNamed? actual w.name = some r ∧ r.AsWanted w

lemma unmet?_eq_none_iff {actual : List Record} {w : Record} :
    unmet? (byName actual) w = none ↔ Met actual w := by
  rw [unmet?, getElem?_byName, Met]
  cases lastNamed? actual w.name with
  | none => simp
  | some r => simp [← matchesWanted_iff]

lemma unmet?_eq_some_iff {actual : List Record} {w : Record} {fault : WantedFault} :
    unmet? (byName actual) w = some fault ↔
      (∀ r ∈ actual, r.name ≠ w.name) ∧ fault = .missing w.name ∨
      ∃ r, lastNamed? actual w.name = some r ∧ ¬r.AsWanted w ∧ fault = .mismatch w.name := by
  rw [unmet?, getElem?_byName, ← lastNamed?_eq_none_iff]
  cases lastNamed? actual w.name with
  | none => simp [eq_comm]
  | some r =>
    by_cases hr : r.AsWanted w
    · simp [matchesWanted_iff.mpr hr, hr]
    · have hfalse : r.matchesWanted w = false := by
        rw [← Bool.not_eq_true, matchesWanted_iff]
        exact hr
      simp [hfalse, hr, eq_comm]

/-- The faults of a comparison, each with what it is found on; a fault further down is reported only
where there is none of those above. -/
inductive Reported (actual wanted : List Record) : WantedFault → Prop where
  | repeated {before after : List Record} {w : Record} : wanted = before ++ w :: after →
      (before.map name).Nodup → w.name ∈ before.map name → Reported actual wanted (.repeated w.name)
  | missing {before after : List Record} {w : Record} : (wanted.map name).Nodup →
      wanted = before ++ w :: after → (∀ v ∈ before, Met actual v) →
      (∀ r ∈ actual, r.name ≠ w.name) → Reported actual wanted (.missing w.name)
  | mismatch {before after : List Record} {w r : Record} : (wanted.map name).Nodup →
      wanted = before ++ w :: after → (∀ v ∈ before, Met actual v) →
      lastNamed? actual w.name = some r → ¬r.AsWanted w → Reported actual wanted (.mismatch w.name)
  | count : (wanted.map name).Nodup → (∀ w ∈ wanted, Met actual w) →
      actual.length ≠ wanted.length →
      Reported actual wanted (.count wanted.length actual.length)

section Comparison

variable {actual wanted : List Record}

lemma firstRepeated?_empty_eq_none_iff :
    firstRepeated? ∅ wanted = none ↔ (wanted.map name).Nodup := by
  simp [firstRepeated?_eq_none_iff]

lemma firstUnmet?_eq_none_iff :
    firstUnmet? (byName actual) wanted = none ↔ ∀ w ∈ wanted, Met actual w := by
  rw [firstUnmet?_eq_findSome?, List.findSome?_eq_none_iff]
  simp only [unmet?_eq_none_iff]

lemma firstUnmet?_eq_some_iff {fault : WantedFault} :
    firstUnmet? (byName actual) wanted = some fault ↔ ∃ before w after,
      wanted = before ++ w :: after ∧ (∀ v ∈ before, Met actual v) ∧
        unmet? (byName actual) w = some fault := by
  rw [firstUnmet?_eq_findSome?, List.findSome?_eq_some_iff]
  simp only [unmet?_eq_none_iff, and_comm]

lemma matchWanted_eq_ok_iff : matchWanted actual wanted = .ok () ↔
    (wanted.map name).Nodup ∧ (∀ w ∈ wanted, Met actual w) ∧ actual.length = wanted.length := by
  rw [← firstRepeated?_empty_eq_none_iff, ← firstUnmet?_eq_none_iff, matchWanted]
  cases firstRepeated? ∅ wanted with
  | some name => simp
  | none => cases firstUnmet? (byName actual) wanted <;> simp

lemma matchWanted_of_repeated {name : String} (h : firstRepeated? ∅ wanted = some name) :
    matchWanted actual wanted = .error (.repeated name) := by
  rw [matchWanted, h]

lemma matchWanted_of_unmet {fault : WantedFault} (hn : (wanted.map name).Nodup)
    (h : firstUnmet? (byName actual) wanted = some fault) :
    matchWanted actual wanted = .error fault := by
  rw [matchWanted, firstRepeated?_empty_eq_none_iff.mpr hn]
  dsimp only
  rw [h]

lemma Reported.matchWanted_eq {fault : WantedFault} (h : Reported actual wanted fault) :
    matchWanted actual wanted = .error fault := by
  cases h with
  | @repeated before after w hsplit hnodup hmem =>
    refine matchWanted_of_repeated (firstRepeated?_eq_some_iff.mpr ?_)
    exact ⟨before, w, after, hsplit, firstRepeated?_empty_eq_none_iff.mpr hnodup, rfl, .inr hmem⟩
  | @missing before after w hnodup hsplit hmet hnone =>
    refine matchWanted_of_unmet hnodup (firstUnmet?_eq_some_iff.mpr ?_)
    exact ⟨before, w, after, hsplit, hmet, unmet?_eq_some_iff.mpr (.inl ⟨hnone, rfl⟩)⟩
  | @mismatch before after w r hnodup hsplit hmet hlast hother =>
    refine matchWanted_of_unmet hnodup (firstUnmet?_eq_some_iff.mpr ?_)
    exact ⟨before, w, after, hsplit, hmet,
      unmet?_eq_some_iff.mpr (.inr ⟨r, hlast, hother, rfl⟩)⟩
  | count hnodup hmet hlength =>
    rw [matchWanted, firstRepeated?_empty_eq_none_iff.mpr hnodup]
    dsimp only
    rw [firstUnmet?_eq_none_iff.mpr hmet]
    exact if_neg hlength

lemma reported_of_matchWanted {fault : WantedFault} (h : matchWanted actual wanted = .error fault) :
    Reported actual wanted fault := by
  unfold matchWanted at h
  split at h
  · next name hrepeated =>
    obtain ⟨before, w, after, hsplit, hnone, rfl, hmem⟩ :=
      firstRepeated?_eq_some_iff.mp hrepeated
    cases h
    exact .repeated hsplit (firstRepeated?_empty_eq_none_iff.mp hnone)
      (hmem.resolve_left Std.ExtTreeSet.not_mem_empty)
  · next hnone =>
    have hnodup := firstRepeated?_empty_eq_none_iff.mp hnone
    split at h
    · next unmet hunmet =>
      cases h
      obtain ⟨before, w, after, hsplit, hmet, hw⟩ := firstUnmet?_eq_some_iff.mp hunmet
      rcases unmet?_eq_some_iff.mp hw with ⟨hmissing, rfl⟩ | ⟨r, hlast, hother, rfl⟩
      · exact .missing hnodup hsplit hmet hmissing
      · exact .mismatch hnodup hsplit hmet hlast hother
    · next hall =>
      split at h
      · cases h
      · next hlength =>
        cases h
        exact .count hnodup (firstUnmet?_eq_none_iff.mp hall) hlength

lemma exists_perm_of_met (hn : (wanted.map name).Nodup) (hmet : ∀ w ∈ wanted, Met actual w)
    (hlength : actual.length = wanted.length) :
    ∃ p : List Record, p.Perm actual ∧ List.Forall₂ AsWanted p wanted := by
  let found (w : Record) : Record := (lastNamed? actual w.name).getD w
  have hfound : ∀ w ∈ wanted, found w ∈ actual ∧ (found w).AsWanted w := by
    intro w hw
    obtain ⟨r, hlast, hr⟩ := hmet w hw
    have heq : found w = r := by simp only [found, hlast, Option.getD_some]
    rw [heq]
    exact ⟨(mem_of_lastNamed? hlast).1, hr⟩
  have hnames : (wanted.map found).map name = wanted.map name := by
    rw [List.map_map]
    exact List.map_congr_left fun w hw => (hfound w hw).2.name
  have hnodup : (wanted.map found).Nodup := List.Nodup.of_map name (hnames ▸ hn)
  have hsubset : wanted.map found ⊆ actual := by
    intro r hr
    obtain ⟨w, hw, rfl⟩ := List.mem_map.mp hr
    exact (hfound w hw).1
  refine ⟨wanted.map found, ?_, ?_⟩
  · -- distinct records, all among the actual ones, and no fewer: none is left over
    apply (List.subperm_of_subset hnodup hsubset).perm_of_length_le
    rw [List.length_map]
    exact Nat.le_of_eq hlength
  · rw [List.forall₂_map_left_iff, List.forall₂_same]
    exact fun w hw => (hfound w hw).2

lemma map_name_of_asWanted {p : List Record} (h : List.Forall₂ AsWanted p wanted) :
    p.map name = wanted.map name := by
  induction h with
  | nil => rfl
  | cons hr _ ih => rw [List.map_cons, List.map_cons, hr.name, ih]

lemma met_of_perm {p : List Record} (hn : (wanted.map name).Nodup) (hp : p.Perm actual)
    (h : List.Forall₂ AsWanted p wanted) : ∀ w ∈ wanted, Met actual w := by
  have hnodup : (actual.map name).Nodup := by
    rw [← (hp.map name).nodup_iff, map_name_of_asWanted h]
    exact hn
  intro w hw
  obtain ⟨r, hr, hwanted⟩ := exists_of_mem_right h hw
  have hlast := lastNamed?_of_nodup hnodup (hp.mem_iff.mp hr)
  exact ⟨r, hwanted.name ▸ hlast, hwanted⟩

/-- Records pass for the wanted ones just when the wanted names are distinct and the records, in
some order, are one by one as wanted, so that there are as many of them. Whatever else is reported
is the first name that repeats an earlier one, or else the first wanted record that is missing or
different from the last of its name, or else how many there are. -/
theorem matchWanted_up_to_order (actual wanted : List Record) :
    (matchWanted actual wanted = .ok () ↔ (wanted.map name).Nodup ∧
      ∃ p : List Record, p.Perm actual ∧ p.length = wanted.length ∧
        List.Forall₂ AsWanted p wanted) ∧
    ∀ fault, matchWanted actual wanted = .error fault ↔ Reported actual wanted fault := by
  refine ⟨?_, fun fault => ⟨reported_of_matchWanted, Reported.matchWanted_eq⟩⟩
  rw [matchWanted_eq_ok_iff]
  constructor
  · rintro ⟨hn, hmet, hlength⟩
    obtain ⟨p, hp, hwanted⟩ := exists_perm_of_met hn hmet hlength
    exact ⟨hn, p, hp, hwanted.length_eq, hwanted⟩
  · rintro ⟨hn, p, hp, hlength, hwanted⟩
    exact ⟨hn, met_of_perm hn hp hwanted, hp.length_eq ▸ hlength⟩

end Comparison

-- Of two records with one name only the last counts, so what is wanted besides is missing.
example : matchWanted [unseen "a.example", unseen "a.example"]
    [unseen "a.example", unseen "b.example"] = .error (.missing "b.example") := by
  decide

end HstsPreload.Record
