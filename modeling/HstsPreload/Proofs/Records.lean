import HstsPreload.Store.Memory
import Mathlib.Data.List.Nodup

/-!
# Finite maps of records

What writing does to each name, and what the ordered readings of a map contain. A map is
keyed when each record stands under its own name, as every write leaves it.
-/

namespace HstsPreload.Records

lemma getElem?_put (rs : Records) (r : Record) (name : String) :
    (rs.put r)[name]? = if r.name = name then some r else rs[name]? := by
  unfold put
  rw [Std.ExtTreeMap.getElem?_insert]
  simp only [Std.LawfulEqOrd.compare_eq_iff_eq]

@[simp] lemma putAll_nil (rs : Records) : rs.putAll [] = rs := rfl

@[simp] lemma putAll_cons (rs : Records) (r : Record) (batch : List Record) :
    rs.putAll (r :: batch) = (rs.put r).putAll batch := rfl

lemma putAll_append (rs : Records) (first second : List Record) :
    rs.putAll (first ++ second) = (rs.putAll first).putAll second := by
  simp only [putAll, List.foldl_append]

lemma getElem?_putAll_of_notMem (rs : Records) (batch : List Record) (name : String)
    (h : name ∉ batch.map Record.name) : (rs.putAll batch)[name]? = rs[name]? := by
  induction batch generalizing rs with
  | nil => rfl
  | cons r batch ih =>
    simp only [List.map_cons, List.mem_cons, not_or] at h
    rw [putAll_cons, ih _ h.2, getElem?_put, if_neg (Ne.symm h.1)]

lemma exists_getElem?_putAll (rs : Records) (batch : List Record) (name : String)
    (h : name ∈ batch.map Record.name) :
    ∃ r ∈ batch, r.name = name ∧ (rs.putAll batch)[name]? = some r := by
  induction batch generalizing rs with
  | nil => simp at h
  | cons r batch ih =>
    by_cases hb : name ∈ batch.map Record.name
    · obtain ⟨s, hs, hn, hg⟩ := ih (rs.put r) hb
      exact ⟨s, List.mem_cons_of_mem _ hs, hn, hg⟩
    · have hr : r.name = name := by
        simp only [List.map_cons, List.mem_cons] at h
        exact (h.resolve_right hb).symm
      refine ⟨r, List.mem_cons_self, hr, ?_⟩
      rw [putAll_cons, getElem?_putAll_of_notMem _ _ _ hb, getElem?_put, if_pos hr]

lemma putAll_cases (rs : Records) (batch : List Record) (domain : String) :
    (rs.putAll batch)[domain]? = rs[domain]? ∨
      ∃ r ∈ batch, r.name = domain ∧ (rs.putAll batch)[domain]? = some r := by
  by_cases h : domain ∈ batch.map Record.name
  · exact .inr (exists_getElem?_putAll rs batch domain h)
  · exact .inl (getElem?_putAll_of_notMem rs batch domain h)

lemma getElem?_putAll_of_mem (rs : Records) {batch : List Record}
    (hn : (batch.map Record.name).Nodup) {r : Record} (h : r ∈ batch) :
    (rs.putAll batch)[r.name]? = some r := by
  obtain ⟨s, hs, hsn, hg⟩ := exists_getElem?_putAll rs batch r.name (List.mem_map_of_mem h)
  rwa [List.inj_on_of_nodup_map hn hs h hsn] at hg

/-- Each record stands under its own name. -/
def Keyed (rs : Records) : Prop :=
  ∀ (name : String) (r : Record), rs[name]? = some r → r.name = name

lemma keyed_empty : Keyed ∅ := by
  intro name r h
  simp at h

lemma Keyed.put {rs : Records} (h : rs.Keyed) (r : Record) : (rs.put r).Keyed := by
  intro name s hs
  rw [getElem?_put] at hs
  split at hs
  · next hn => exact (Option.some.inj hs) ▸ hn
  · exact h name s hs

lemma Keyed.putAll {rs : Records} (h : rs.Keyed) (batch : List Record) :
    (rs.putAll batch).Keyed := by
  induction batch generalizing rs with
  | nil => exact h
  | cons r batch ih => exact ih (h.put r)

lemma get_of_some {rs : Records} {name : String} {r : Record} (h : rs[name]? = some r) :
    rs.get name = r := by
  simp [get, h]

lemma get_of_none {rs : Records} {name : String} (h : rs[name]? = none) :
    rs.get name = .unseen name := by
  simp [get, h]

lemma get_congr {rs rs' : Records} {name : String} (h : rs[name]? = rs'[name]?) :
    rs.get name = rs'.get name := by
  simp only [get, h]

@[simp] lemma Keyed.name_get {rs : Records} (h : rs.Keyed) (name : String) :
    (rs.get name).name = name := by
  cases hr : rs[name]? with
  | none => rw [get_of_none hr]; rfl
  | some r => rw [get_of_some hr]; exact h name r hr

lemma getElem?_of_status_get {rs : Records} {name : String}
    (h : (rs.get name).status ≠ .unknown) : rs[name]? = some (rs.get name) := by
  cases hr : rs[name]? with
  | none => rw [get_of_none hr] at h; exact (h rfl).elim
  | some r => rw [get_of_some hr]

lemma Keyed.mem_inOrder {rs : Records} (h : rs.Keyed) (r : Record) :
    r ∈ rs.inOrder ↔ rs[r.name]? = some r := by
  simp only [inOrder, List.mem_map, Prod.exists, exists_eq_right]
  constructor
  · rintro ⟨name, hm⟩
    rw [Std.ExtTreeMap.mem_toList_iff_getElem?_eq_some] at hm
    rwa [h name r hm]
  · intro hr
    exact ⟨r.name, Std.ExtTreeMap.mem_toList_iff_getElem?_eq_some.mpr hr⟩

lemma Keyed.mem_withStatus {rs : Records} (h : rs.Keyed) (s : Status) (r : Record) :
    r ∈ rs.withStatus s ↔ rs[r.name]? = some r ∧ r.status = s := by
  simp only [withStatus, List.mem_filter, h.mem_inOrder, beq_iff_eq]

def InNameOrder (records : List Record) : Prop :=
  records.Pairwise fun a b => compare a.name b.name = .lt

lemma Keyed.inNameOrder_inOrder {rs : Records} (h : rs.Keyed) : InNameOrder rs.inOrder := by
  unfold InNameOrder inOrder
  rw [List.pairwise_map]
  refine (Std.ExtTreeMap.ordered_keys_toList (t := rs)).imp_of_mem ?_
  intro a b ha hb hlt
  have hkey : ∀ p ∈ rs.toList, p.2.name = p.1 := fun p hp =>
    h p.1 p.2 (Std.ExtTreeMap.mem_toList_iff_getElem?_eq_some.mp hp)
  rwa [hkey a ha, hkey b hb]

lemma Keyed.inNameOrder_withStatus {rs : Records} (h : rs.Keyed) (s : Status) :
    InNameOrder (rs.withStatus s) :=
  h.inNameOrder_inOrder.filter _

lemma InNameOrder.nodup {records : List Record} (h : InNameOrder records) :
    (records.map Record.name).Nodup := by
  rw [List.nodup_iff_pairwise_ne, List.pairwise_map]
  refine h.imp ?_
  intro a b hlt heq
  rw [heq, Std.ReflOrd.compare_self] at hlt
  cases hlt

lemma InNameOrder.eq_of_mem_iff {first second : List Record} (hf : InNameOrder first)
    (hs : InNameOrder second) (h : ∀ r, r ∈ first ↔ r ∈ second) : first = second := by
  have hperm : first.Perm second :=
    (List.perm_ext_iff_of_nodup (List.Nodup.of_map _ hf.nodup) (List.Nodup.of_map _ hs.nodup)).mpr h
  refine List.Perm.eq_of_pairwise ?_ hf hs hperm
  intro a b _ _ hab hba
  exact (Std.OrientedCmp.not_lt_of_lt hab hba).elim

def All (P : Record → Prop) (rs : Records) : Prop :=
  ∀ (name : String) (r : Record), rs[name]? = some r → P r

lemma all_empty (P : Record → Prop) : All P ∅ := by
  intro name r h
  simp at h

lemma All.putAll {P : Record → Prop} {rs : Records} (h : rs.All P) {batch : List Record}
    (hb : ∀ r ∈ batch, P r) : (rs.putAll batch).All P := by
  intro name r hr
  by_cases hn : name ∈ batch.map Record.name
  · obtain ⟨s, hs, -, hg⟩ := exists_getElem?_putAll rs batch name hn
    rw [hg] at hr
    exact Option.some.inj hr ▸ hb s hs
  · rw [getElem?_putAll_of_notMem rs batch name hn] at hr
    exact h name r hr

lemma All.of_mem_inOrder {P : Record → Prop} {rs : Records} (h : rs.All P) :
    ∀ r ∈ rs.inOrder, P r := by
  intro r hr
  obtain ⟨⟨name, r⟩, hmem, rfl⟩ := List.mem_map.mp hr
  exact h name r (Std.ExtTreeMap.mem_toList_iff_getElem?_eq_some.mp hmem)

lemma All.of_mem_withStatus {P : Record → Prop} {rs : Records} (h : rs.All P) {s : Status}
    {r : Record} (hr : r ∈ rs.withStatus s) : P r :=
  h.of_mem_inOrder r (List.mem_of_mem_filter hr)

lemma All.get {P : Record → Prop} {rs : Records} (h : rs.All P) (hunseen : ∀ name, P (.unseen name))
    (name : String) : P (rs.get name) := by
  cases hr : rs[name]? with
  | none => exact get_of_none hr ▸ hunseen name
  | some r => exact get_of_some hr ▸ h name r hr

end HstsPreload.Records
