import HstsPreload.Plan
import HstsPreload.Proofs.Decisions
import HstsPreload.Proofs.Records
import HstsPreload.Proofs.Snapshot

/-!
# Plans and the comparison of single records

`reconciled?` compares every name of a store with a snapshot on its own, by the rule for one
record. Plans are made from three queries and a list of entries instead; this file shows that
they ask for exactly the records that `reconciled?` changes, also when the queries are
answered at different moments while other updates with the same snapshot are writing.
-/

namespace HstsPreload

namespace Records

/-- The record that the comparison of one name with the list leaves. -/
def reconciled? (rs : Records) (l : PreloadList) (name : String) : Option Record :=
  match (rs.get name).onReconcile (l.first? name) with
  | .unchanged => rs[name]?
  | .transition r => some r

lemma reconciled?_of_transition {rs : Records} {l : PreloadList} {name : String} {r : Record}
    (h : (rs.get name).onReconcile (l.first? name) = .transition r) :
    rs.reconciled? l name = some r := by
  rw [reconciled?, h]

lemma reconciled?_of_unchanged {rs : Records} {l : PreloadList} {name : String}
    (h : (rs.get name).onReconcile (l.first? name) = .unchanged) :
    rs.reconciled? l name = rs[name]? := by
  rw [reconciled?, h]

lemma reconciled?_congr {rs rs' : Records} {name : String} (l : PreloadList)
    (h : rs'[name]? = rs[name]?) : rs'.reconciled? l name = rs.reconciled? l name := by
  rw [reconciled?, reconciled?, get_congr h, h]

lemma reconciled?_idem {rs rs' : Records} {name : String} (l : PreloadList)
    (h : rs'[name]? = rs.reconciled? l name) :
    rs'.reconciled? l name = rs.reconciled? l name := by
  cases hd : (rs.get name).onReconcile (l.first? name) with
  | unchanged => rw [reconciled?_of_unchanged hd] at h; exact reconciled?_congr l h
  | transition r =>
    rw [reconciled?_of_transition hd] at h ⊢
    have hs := Record.onReconcile_settles hd
    rw [← get_of_some h] at hs
    rw [reconciled?_of_unchanged hs, h]

lemma reconciled?_ne_iff {rs : Records} (l : PreloadList) (name : String) :
    rs.reconciled? l name ≠ rs[name]? ↔
      ∃ r, (rs.get name).onReconcile (l.first? name) = .transition r := by
  cases hd : (rs.get name).onReconcile (l.first? name) with
  | unchanged => simp [reconciled?_of_unchanged hd]
  | transition r =>
    refine iff_of_true ?_ ⟨r, rfl⟩
    rw [reconciled?_of_transition hd]
    intro h
    exact Record.ne_of_onReconcile hd (get_of_some h.symm).symm

/-- Some of the names have been brought in line with the list and the others are as before. -/
def Advances (l : PreloadList) (rs rs' : Records) : Prop :=
  ∀ name : String, rs'[name]? = rs[name]? ∨ rs'[name]? = rs.reconciled? l name

namespace Advances

variable {l : PreloadList} {rs rs' rs'' : Records}

lemma refl (l : PreloadList) (rs : Records) : Advances l rs rs :=
  fun _ => .inl rfl

/-- Where the records are heading does not depend on how far they have come. -/
lemma reconciled? (h : Advances l rs rs') (name : String) :
    rs'.reconciled? l name = rs.reconciled? l name :=
  (h name).elim (reconciled?_congr l) (reconciled?_idem l)

lemma trans (h : Advances l rs rs') (h' : Advances l rs' rs'') : Advances l rs rs'' := by
  intro name
  rcases h' name with hn | hn
  · rw [hn]; exact h name
  · rw [hn, h.reconciled?]; exact .inr rfl

lemma settled (h : Advances l rs rs') {name : String} (hn : rs[name]? = rs.reconciled? l name) :
    rs'[name]? = rs.reconciled? l name := by
  rcases h name with hs | hs
  · rw [hs, hn]
  · exact hs

/-- What is the same at two moments has not been different in between. -/
lemma eq_between (h : Advances l rs rs') (h' : Advances l rs' rs'') {name : String}
    (heq : rs''[name]? = rs[name]?) : rs'[name]? = rs[name]? := by
  rcases h name with h₁ | h₁
  · exact h₁
  rcases h' name with h₂ | h₂
  · rw [← h₂, heq]
  · rw [h.reconciled?, ← h₁] at h₂
    rw [← h₂, heq]

lemma keyed (h : Advances l rs rs') (hk : rs.Keyed) : rs'.Keyed := by
  intro name r hr
  rcases h name with hn | hn
  · exact hk name r (hn ▸ hr)
  · cases hd : (rs.get name).onReconcile (l.first? name) with
    | unchanged => rw [hn, reconciled?_of_unchanged hd] at hr; exact hk name r hr
    | transition s =>
      rw [hn, reconciled?_of_transition hd] at hr
      rw [← Option.some.inj hr, Record.name_of_onReconcile hd, hk.name_get]

lemma putAll {batch : List Record}
    (h : ∀ r ∈ batch, rs.reconciled? l r.name = some r) : Advances l rs (rs.putAll batch) := by
  intro name
  by_cases hb : name ∈ batch.map Record.name
  · obtain ⟨r, hr, rfl, hg⟩ := exists_getElem?_putAll rs batch name hb
    exact .inr (hg.trans (h r hr).symm)
  · exact .inl (getElem?_putAll_of_notMem rs batch name hb)

end Advances

end Records

/-- The record of a domain of which nothing is kept but that the list holds. -/
def Entry.record (e : Entry) : Record :=
  (Record.unseen e.name).listed e

@[simp] lemma Entry.name_record (e : Entry) : e.record.name = e.name := rfl

namespace Records

lemma Keyed.mem_names_withStatus {rs : Records} (h : rs.Keyed) {s : Status} (hs : s ≠ .unknown)
    (name : String) :
    name ∈ (rs.withStatus s).map Record.name ↔ (rs.get name).status = s := by
  simp only [List.mem_map, h.mem_withStatus]
  constructor
  · rintro ⟨r, ⟨hr, hrs⟩, rfl⟩
    rw [get_of_some hr, hrs]
  · intro hg
    refine ⟨rs.get name, ⟨?_, hg⟩, h.name_get name⟩
    rw [h.name_get]
    exact getElem?_of_status_get (hg ▸ hs)

lemma Keyed.not_tracked_iff {rs : Records} (h : rs.Keyed) {l : PreloadList} {e : Entry}
    (he : l.first? e.name = some e) :
    ¬(rs.get e.name).status.Tracked ↔
      (rs.get e.name).onReconcile (l.first? e.name) = .transition e.record := by
  rw [he, Record.onReconcile_some]
  split
  · simp_all
  · next ht =>
    refine iff_of_true ht ?_
    rw [Record.listed_congr (s := .unseen e.name) e (h.name_get e.name)]
    rfl

lemma Keyed.mem_withStatus_get {rs : Records} (h : rs.Keyed) {s : Status} (hs : s ≠ .unknown)
    {name : String} (hg : (rs.get name).status = s) : rs.get name ∈ rs.withStatus s := by
  rw [h.mem_withStatus, h.name_get]
  exact ⟨getElem?_of_status_get (hg ▸ hs), hg⟩

lemma Keyed.reconciled?_of_mem {rs : Records} (h : rs.Keyed) {l : PreloadList} {s : Status}
    {r r' : Record} (hr : r ∈ rs.withStatus s)
    (hd : r.onReconcile (l.first? r.name) = .transition r') :
    rs.reconciled? l r'.name = some r' := by
  rw [Record.name_of_onReconcile hd]
  refine reconciled?_of_transition ?_
  rwa [get_of_some ((h.mem_withStatus s r).mp hr).1]

/-- What is still due is what was due before, less what has been written since. -/
lemma Advances.transition_iff {l : PreloadList} {rs rs' : Records} (h : Advances l rs rs')
    (name : String) (r : Record) :
    (rs'.get name).onReconcile (l.first? name) = .transition r ↔
      (rs.get name).onReconcile (l.first? name) = .transition r ∧ rs'[name]? ≠ some r := by
  constructor
  · intro hd
    have hne : rs'[name]? ≠ some r := fun hr =>
      Record.ne_of_onReconcile hd (get_of_some hr).symm
    refine ⟨?_, hne⟩
    rcases h name with hn | hn
    · rwa [get_congr hn] at hd
    · rw [← h.reconciled?, reconciled?_of_transition hd] at hn
      exact (hne hn).elim
  · rintro ⟨hd, hne⟩
    rcases h name with hn | hn
    · rwa [get_congr hn]
    · rw [reconciled?_of_transition hd] at hn
      exact (hne hn).elim

end Records

namespace Plan

/-- The record that a record read by an update is due to become. -/
def due? (l : PreloadList) (r : Record) : Option Record :=
  next? (r.onReconcile (l.first? r.name))

lemma due?_eq_some {l : PreloadList} {r r' : Record} :
    due? l r = some r' ↔ r.onReconcile (l.first? r.name) = .transition r' := by
  unfold due? next?
  split <;> simp_all

variable (l : PreloadList) (preloaded pendingRemoval automated : List Record)

lemma added_build : (build l preloaded pendingRemoval automated).added =
    (l.hstsEntries.filter fun e =>
      e.name ∉ (preloaded ++ pendingRemoval ++ automated).map Record.name).map Entry.record := by
  simp only [build, Std.ExtTreeSet.mem_ofList, List.contains_iff_mem]
  exact congrFun (List.filterMap_eq_map (f := Entry.record)) _

lemma removed_build : (build l preloaded pendingRemoval automated).removed =
    preloaded.filterMap (due? l) := by
  simp only [build, PreloadList.getElem?_hstsIndex]
  rfl

lemma selfRejected_build : (build l preloaded pendingRemoval automated).selfRejected =
    pendingRemoval.filterMap (due? l) := by
  simp only [build, PreloadList.getElem?_hstsIndex]
  rfl

lemma mem_updates_build (r : Record) :
    r ∈ (build l preloaded pendingRemoval automated).updates ↔
      (∃ e, l.first? e.name = some e ∧
        e.name ∉ (preloaded ++ pendingRemoval ++ automated).map Record.name ∧ e.record = r) ∨
      (∃ s ∈ preloaded, s.onReconcile (l.first? s.name) = .transition r) ∨
      ∃ s ∈ pendingRemoval, s.onReconcile (l.first? s.name) = .transition r := by
  simp only [updates, List.mem_append, added_build, removed_build, selfRejected_build,
    List.mem_map (f := Entry.record), List.mem_filter, List.mem_filterMap, due?_eq_some,
    PreloadList.mem_hstsEntries, decide_eq_true_eq, or_assoc, and_assoc]

/-- Whatever the records are that it compares with the list, a plan has them join the list, or
has them removed or rejected when they are not on it. -/
lemma mem_updates_cases {r : Record}
    (h : r ∈ (build l preloaded pendingRemoval automated).updates) :
    (∃ e, l.first? r.name = some e ∧ r = e.record) ∨
      l.first? r.name = none ∧ (r.status = .removed ∨ r.status = .rejected) := by
  have hcompared : ∀ s : Record, s.onReconcile (l.first? s.name) = .transition r →
      (∃ e, l.first? r.name = some e ∧ r = e.record) ∨
        l.first? r.name = none ∧ (r.status = .removed ∨ r.status = .rejected) := by
    intro s hs
    rw [Record.name_of_onReconcile hs]
    obtain ⟨e, he, -, rfl⟩ | ⟨hn, -, rfl⟩ | ⟨hn, -, rfl⟩ := Record.onReconcile_cases hs
    · exact .inl ⟨e, he, Record.listed_congr e (PreloadList.name_of_first? he).symm⟩
    · exact .inr ⟨hn, .inl rfl⟩
    · exact .inr ⟨hn, .inr rfl⟩
  obtain ⟨e, he, -, rfl⟩ | ⟨s, -, hs⟩ | ⟨s, -, hs⟩ := (mem_updates_build l _ _ _ r).mp h
  · exact .inl ⟨e, he, rfl⟩
  · exact hcompared s hs
  · exact hcompared s hs

/-- The plan for records that are all read at one moment. -/
def ofRecords (l : PreloadList) (rs : Records) : Plan :=
  build l (rs.withStatus .preloaded) (rs.withStatus .pendingRemoval)
    (rs.withStatus .pendingAutomatedRemoval)

lemma mem_names_tracked {rs : Records} (hk : rs.Keyed) (name : String) :
    name ∈ (rs.withStatus .preloaded ++ rs.withStatus .pendingRemoval ++
      rs.withStatus .pendingAutomatedRemoval).map Record.name ↔ (rs.get name).status.Tracked := by
  simp only [List.map_append, List.mem_append, Status.Tracked, or_assoc,
    hk.mem_names_withStatus (s := .preloaded) (by decide),
    hk.mem_names_withStatus (s := .pendingRemoval) (by decide),
    hk.mem_names_withStatus (s := .pendingAutomatedRemoval) (by decide)]

lemma mem_filterMap_due {rs : Records} (hk : rs.Keyed) {s : Status} (hs : s ≠ .unknown)
    (r : Record) :
    r ∈ (rs.withStatus s).filterMap (due? l) ↔ (rs.get r.name).status = s ∧
      (rs.get r.name).onReconcile (l.first? r.name) = .transition r := by
  simp only [List.mem_filterMap, due?_eq_some, hk.mem_withStatus]
  constructor
  · rintro ⟨q, ⟨hq, hqs⟩, hd⟩
    rw [Record.name_of_onReconcile hd, Records.get_of_some hq]
    exact ⟨hqs, hd⟩
  · rintro ⟨hg, hd⟩
    refine ⟨rs.get r.name, (hk.mem_withStatus _ _).mp (hk.mem_withStatus_get hs hg), ?_⟩
    rwa [hk.name_get]

lemma of_mem_updates {rs₁ rs₂ : Records} (hk₁ : rs₁.Keyed) (hk₂ : rs₂.Keyed) {r : Record}
    (h : r ∈ (build l (rs₁.withStatus .preloaded) (rs₂.withStatus .pendingRemoval)
      automated).updates) :
    (∃ e, l.first? e.name = some e ∧ e.name ∉ (rs₁.withStatus .preloaded ++
        rs₂.withStatus .pendingRemoval ++ automated).map Record.name ∧ e.record = r) ∨
      ((rs₁.get r.name).status = .preloaded ∧
        (rs₁.get r.name).onReconcile (l.first? r.name) = .transition r) ∨
      (rs₂.get r.name).status = .pendingRemoval ∧
        (rs₂.get r.name).onReconcile (l.first? r.name) = .transition r := by
  rw [updates, List.mem_append, List.mem_append, removed_build, selfRejected_build,
    mem_filterMap_due l hk₁ (by decide), mem_filterMap_due l hk₂ (by decide), or_assoc] at h
  refine h.imp_left fun hadded => ?_
  simpa only [added_build, List.mem_map (f := Entry.record), List.mem_filter,
    PreloadList.mem_hstsEntries, decide_eq_true_eq, and_assoc] using hadded

lemma mem_added_ofRecords {rs : Records} (hk : rs.Keyed) (r : Record) :
    r ∈ (ofRecords l rs).added ↔ ¬(rs.get r.name).status.Tracked ∧
      (rs.get r.name).onReconcile (l.first? r.name) = .transition r := by
  rw [ofRecords, added_build]
  simp only [List.mem_map (f := Entry.record), List.mem_filter, PreloadList.mem_hstsEntries,
    mem_names_tracked hk, decide_eq_true_eq]
  constructor
  · rintro ⟨e, ⟨he, ht⟩, rfl⟩
    exact ⟨ht, (hk.not_tracked_iff he).mp ht⟩
  · rintro ⟨ht, hd⟩
    obtain ⟨e, he, -, hr⟩ | ⟨-, hs, -⟩ | ⟨-, hs, -⟩ := Record.onReconcile_cases hd
    · have hn := PreloadList.name_of_first? he
      rw [← hn] at he ht hd
      refine ⟨e, ⟨he, ht⟩, ?_⟩
      exact ReconcileDecision.transition.inj (((hk.not_tracked_iff he).mp ht).symm.trans hd)
    · exact (ht (.inl hs)).elim
    · exact (ht (.inr (.inl hs))).elim

lemma mem_updates_ofRecords {rs : Records} (hk : rs.Keyed) (r : Record) :
    r ∈ (ofRecords l rs).updates ↔
      (rs.get r.name).onReconcile (l.first? r.name) = .transition r := by
  have hremoved := mem_filterMap_due l hk (s := .preloaded) (by decide) r
  have hrejected := mem_filterMap_due l hk (s := .pendingRemoval) (by decide) r
  rw [updates, List.mem_append, List.mem_append, mem_added_ofRecords l hk, ofRecords, removed_build,
    selfRejected_build, hremoved, hrejected, ← or_and_right, ← or_and_right, and_iff_right_iff_imp]
  intro hd
  obtain ⟨-, -, ht, -⟩ | ⟨-, hs, -⟩ | ⟨-, hs, -⟩ := Record.onReconcile_cases hd
  · exact .inl (.inl ht)
  · exact .inl (.inr hs)
  · exact .inr hs

lemma inNameOrder_filterMap_due {records : List Record} (h : Records.InNameOrder records) :
    Records.InNameOrder (records.filterMap (due? l)) := by
  refine List.Pairwise.filterMap _ ?_ h
  intro a b hab a' ha b' hb
  rw [Record.name_of_onReconcile (due?_eq_some.mp ha),
    Record.name_of_onReconcile (due?_eq_some.mp hb)]
  exact hab

lemma nodup_updates_ofRecords {rs : Records} (hk : rs.Keyed) :
    ((ofRecords l rs).updates.map Record.name).Nodup := by
  have hadded : ((ofRecords l rs).added.map Record.name).Nodup := by
    rw [ofRecords, added_build, List.map_map]
    exact l.nodup_hstsEntries.sublist (List.filter_sublist.map _)
  have hremoved := (inNameOrder_filterMap_due l (hk.inNameOrder_withStatus .preloaded)).nodup
  have hrejected := (inNameOrder_filterMap_due l (hk.inNameOrder_withStatus .pendingRemoval)).nodup
  rw [← removed_build l _ (rs.withStatus .pendingRemoval)
    (rs.withStatus .pendingAutomatedRemoval)] at hremoved
  rw [← selfRejected_build l (rs.withStatus .preloaded) _
    (rs.withStatus .pendingAutomatedRemoval)] at hrejected
  -- the groups are told apart by the status that their records have now
  have hstatus : ∀ r ∈ (ofRecords l rs).removed, (rs.get r.name).status = .preloaded := by
    intro r hr
    rw [ofRecords, removed_build] at hr
    exact ((mem_filterMap_due l hk (by decide) r).mp hr).1
  have hstatus' : ∀ r ∈ (ofRecords l rs).selfRejected,
      (rs.get r.name).status = .pendingRemoval := by
    intro r hr
    rw [ofRecords, selfRejected_build] at hr
    exact ((mem_filterMap_due l hk (by decide) r).mp hr).1
  rw [updates, List.map_append, List.map_append, List.nodup_append, List.nodup_append]
  refine ⟨⟨hadded, hremoved, ?_⟩, hrejected, ?_⟩
  · simp only [List.mem_map]
    rintro - ⟨a, ha, rfl⟩ - ⟨b, hb, rfl⟩ hn
    have ht := ((mem_added_ofRecords l hk a).mp ha).1
    rw [hn] at ht
    exact ht (.inl (hstatus b hb))
  · simp only [List.mem_append, List.mem_map]
    rintro - (⟨a, ha, rfl⟩ | ⟨a, ha, rfl⟩) - ⟨b, hb, rfl⟩ hn
    · have ht := ((mem_added_ofRecords l hk a).mp ha).1
      rw [hn] at ht
      exact ht (.inr (.inl (hstatus' b hb)))
    · have hs := hstatus a ha
      rw [hn, hstatus' b hb] at hs
      cases hs

lemma filterMap_due_of_advances {rs rs' : Records} (hk : rs.Keyed) (h : rs.Advances l rs')
    {s : Status} (hs : s ≠ .unknown) :
    (rs'.withStatus s).filterMap (due? l) =
      ((rs.withStatus s).filterMap (due? l)).filter fun r => rs'[r.name]? ≠ some r := by
  refine Records.InNameOrder.eq_of_mem_iff
    (inNameOrder_filterMap_due l ((h.keyed hk).inNameOrder_withStatus s))
    ((inNameOrder_filterMap_due l (hk.inNameOrder_withStatus s)).filter _) ?_
  intro r
  rw [List.mem_filter, mem_filterMap_due l (h.keyed hk) hs, mem_filterMap_due l hk hs,
    h.transition_iff, decide_eq_true_eq, and_assoc]
  refine and_congr_left fun ⟨hd, hne⟩ => ?_
  rcases h r.name with hn | hn
  · rw [Records.get_congr hn]
  · rw [Records.reconciled?_of_transition hd] at hn
    exact (hne hn).elim

/-- While updates with one snapshot are writing, the next plan consists of what is left of the
plan that was made at the start, in the same order. -/
theorem updates_of_advances {rs rs' : Records} (hk : rs.Keyed) (h : rs.Advances l rs') :
    (ofRecords l rs').updates =
      (ofRecords l rs).updates.filter fun r => rs'[r.name]? ≠ some r := by
  rw [updates, updates, List.filter_append, List.filter_append]
  congr 1
  congr 1
  · rw [ofRecords, ofRecords, added_build, added_build, List.filter_map, List.filter_filter]
    congr 1
    refine List.filter_congr fun e he => ?_
    have hfirst := (l.mem_hstsEntries e).mp he
    rw [Bool.eq_iff_iff, Bool.and_eq_true, Function.comp_apply, decide_eq_true_eq,
      decide_eq_true_eq, decide_eq_true_eq, mem_names_tracked (h.keyed hk), mem_names_tracked hk,
      (h.keyed hk).not_tracked_iff hfirst, hk.not_tracked_iff hfirst, h.transition_iff, and_comm]
    rfl
  · rw [ofRecords, ofRecords, removed_build, removed_build]
    exact filterMap_due_of_advances l hk h (by decide)
  · rw [ofRecords, ofRecords, selfRejected_build, selfRejected_build]
    exact filterMap_due_of_advances l hk h (by decide)

lemma reconciled?_of_mem_updates {rs : Records} (hk : rs.Keyed) {r : Record}
    (h : r ∈ (ofRecords l rs).updates) : rs.reconciled? l r.name = some r :=
  Records.reconciled?_of_transition ((mem_updates_ofRecords l hk r).mp h)

lemma mem_names_updates_iff {rs : Records} (hk : rs.Keyed) (name : String) :
    name ∈ (ofRecords l rs).updates.map Record.name ↔ rs.reconciled? l name ≠ rs[name]? := by
  rw [Records.reconciled?_ne_iff, List.mem_map]
  constructor
  · rintro ⟨r, hr, rfl⟩
    exact ⟨r, (mem_updates_ofRecords l hk r).mp hr⟩
  · rintro ⟨r, hd⟩
    have hn : r.name = name := (Record.name_of_onReconcile hd).trans (hk.name_get name)
    refine ⟨r, (mem_updates_ofRecords l hk r).mpr ?_, hn⟩
    rwa [hn]

theorem getElem?_putAll_updates {rs : Records} (hk : rs.Keyed) (name : String) :
    (rs.putAll (ofRecords l rs).updates)[name]? = rs.reconciled? l name := by
  by_cases h : name ∈ (ofRecords l rs).updates.map Record.name
  · obtain ⟨r, hr, rfl, hg⟩ := Records.exists_getElem?_putAll rs _ name h
    rw [hg, reconciled?_of_mem_updates l hk hr]
  · rw [Records.getElem?_putAll_of_notMem _ _ _ h]
    exact (not_not.mp ((mem_names_updates_iff l hk name).not.mp h)).symm

lemma advances_of_subset {rs : Records} (hk : rs.Keyed) {batch : List Record}
    (h : batch ⊆ (ofRecords l rs).updates) : rs.Advances l (rs.putAll batch) :=
  Records.Advances.putAll fun _ hr => reconciled?_of_mem_updates l hk (h hr)

/-- After the first records of a plan are written, the next plan is the rest of it. -/
theorem updates_after_take {rs : Records} (hk : rs.Keyed) (k : Nat) :
    (ofRecords l (rs.putAll ((ofRecords l rs).updates.take k))).updates =
      (ofRecords l rs).updates.drop k := by
  have hnodup := nodup_updates_ofRecords l hk
  rw [updates_of_advances l hk (advances_of_subset l hk (List.take_subset _ _))]
  generalize hu : (ofRecords l rs).updates = updates at hnodup ⊢
  rw [← List.take_append_drop k updates, List.map_append, List.nodup_append] at hnodup
  obtain ⟨htake, -, hdisjoint⟩ := hnodup
  conv_lhs => rw [← List.take_append_drop k updates, List.filter_append]
  have hwritten : ((updates.take k).filter fun r =>
      (rs.putAll (updates.take k))[r.name]? ≠ some r) = [] := by
    refine List.filter_eq_nil_iff.mpr fun r hr => ?_
    rw [Records.getElem?_putAll_of_mem rs htake hr]
    simp
  have hleft : ((updates.drop k).filter fun r =>
      (rs.putAll (updates.take k))[r.name]? ≠ some r) = updates.drop k := by
    refine List.filter_eq_self.mpr fun r hr => decide_eq_true ?_
    have hn : r.name ∉ (updates.take k).map Record.name := fun hn =>
      hdisjoint _ hn _ (List.mem_map_of_mem hr) rfl
    rw [Records.getElem?_putAll_of_notMem _ _ _ hn]
    intro hs
    have hd := (mem_updates_ofRecords l hk r).mp (hu ▸ List.mem_of_mem_drop hr)
    exact Record.ne_of_onReconcile hd (Records.get_of_some hs).symm
  simp only [List.take_append_drop] at hwritten hleft ⊢
  rw [hwritten, hleft, List.nil_append]

/-- A listed name is brought by the queries only if its record was tracked when the first query
was answered: writing with the same snapshot makes such records preloaded at most. -/
lemma mem_names_moments_iff {rs₁ rs₂ rs₃ : Records} (hk : rs₁.Keyed) (h₂ : rs₁.Advances l rs₂)
    (h₃ : rs₂.Advances l rs₃) {e : Entry} (he : l.first? e.name = some e) :
    e.name ∈ (rs₁.withStatus .preloaded ++ rs₂.withStatus .pendingRemoval ++
      rs₃.withStatus .pendingAutomatedRemoval).map Record.name ↔
      (rs₁.get e.name).status.Tracked := by
  have hlater : ∀ rs, rs₁.Advances l rs → ∀ s, s ≠ .preloaded →
      ((rs.get e.name).status = s ∧ s.Tracked ↔ (rs₁.get e.name).status = s ∧ s.Tracked) := by
    intro rs h s hs
    refine and_congr_left fun ht => ?_
    rcases h e.name with hn | hn
    · rw [Records.get_congr hn]
    by_cases ht₁ : (rs₁.get e.name).status.Tracked
    · have hd : (rs₁.get e.name).onReconcile (l.first? e.name) = .unchanged := by
        rw [he, Record.onReconcile_some, if_pos ht₁]
      rw [Records.reconciled?_of_unchanged hd] at hn
      rw [Records.get_congr hn]
    · rw [Records.reconciled?_of_transition ((hk.not_tracked_iff he).mp ht₁)] at hn
      rw [Records.get_of_some hn]
      refine iff_of_false hs.symm ?_
      rintro rfl
      exact ht₁ ht
  have hremoval := hlater rs₂ h₂ .pendingRemoval (by decide)
  have hautomated := hlater rs₃ (h₂.trans h₃) .pendingAutomatedRemoval (by decide)
  rw [List.map_append, List.map_append, List.mem_append, List.mem_append,
    hk.mem_names_withStatus (by decide), (h₂.keyed hk).mem_names_withStatus (by decide),
    ((h₂.trans h₃).keyed hk).mem_names_withStatus (by decide), or_assoc]
  simp only [show Status.pendingRemoval.Tracked from by decide, and_true] at hremoval
  simp only [show Status.pendingAutomatedRemoval.Tracked from by decide, and_true] at hautomated
  rw [hremoval, hautomated]
  rfl

/-- A plan whose queries are answered one after another, while updates with the same snapshot
are writing, holds records that are due, and passes over no name that is not yet in line. -/
theorem updates_of_moments {rs₁ rs₂ rs₃ : Records} (hk : rs₁.Keyed) (h₂ : rs₁.Advances l rs₂)
    (h₃ : rs₂.Advances l rs₃) :
    let plan := build l (rs₁.withStatus .preloaded) (rs₂.withStatus .pendingRemoval)
      (rs₃.withStatus .pendingAutomatedRemoval)
    (∀ r ∈ plan.updates, rs₁.reconciled? l r.name = some r) ∧
      ∀ name ∉ plan.updates.map Record.name, rs₃[name]? = rs₁.reconciled? l name := by
  intro plan
  refine ⟨fun r hr => ?_, fun name hname => ?_⟩
  · obtain ⟨e, he, hn, rfl⟩ | ⟨s, hs, hd⟩ | ⟨s, hs, hd⟩ := (mem_updates_build l _ _ _ r).mp hr
    · rw [mem_names_moments_iff l hk h₂ h₃ he, hk.not_tracked_iff he] at hn
      exact Records.reconciled?_of_transition hn
    · exact hk.reconciled?_of_mem hs hd
    · rw [← h₂.reconciled?]
      exact (h₂.keyed hk).reconciled?_of_mem hs hd
  · cases hd : (rs₁.get name).onReconcile (l.first? name) with
    | unchanged => exact (h₂.trans h₃).settled (Records.reconciled?_of_unchanged hd).symm
    | transition r =>
      have hr : r.name = name := (Record.name_of_onReconcile hd).trans (hk.name_get name)
      have hnot : r ∉ plan.updates := fun h => hname (List.mem_map.mpr ⟨r, h, hr⟩)
      rw [mem_updates_build] at hnot
      obtain ⟨e, he, ht, hre⟩ | ⟨-, hs, -⟩ | ⟨-, hs, -⟩ := Record.onReconcile_cases hd
      · have hn := PreloadList.name_of_first? he
        subst hn
        refine (hnot (.inl ⟨e, he, (mem_names_moments_iff l hk h₂ h₃ he).not.mpr ht, ?_⟩)).elim
        exact ReconcileDecision.transition.inj (((hk.not_tracked_iff he).mp ht).symm.trans hd)
      · refine (hnot (.inr (.inl ⟨_, hk.mem_withStatus_get (by decide) hs, ?_⟩))).elim
        rwa [hk.name_get]
      · -- the record may have been rejected by another update before the second query
        rcases h₂ name with hn | hn
        · rw [← Records.get_congr hn] at hs hd
          have hk₂ := h₂.keyed hk
          refine (hnot (.inr (.inr ⟨_, hk₂.mem_withStatus_get (by decide) hs, ?_⟩))).elim
          rwa [hk₂.name_get]
        · rw [← h₂.reconciled?] at hn ⊢
          exact h₃.settled hn

end Plan

end HstsPreload
