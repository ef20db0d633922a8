import HstsPreload.Proofs.Refinement
import HstsPreload.Proofs.Rows

/-!
# Tables with faulty rows

Rows are found by the text of their status or by their name, and checked one after another when they
are read. A faulty row is in the way of every question whose answer it would belong to, and of no
other one: an answer that is given leaves out no row.
-/

namespace HstsPreload

open Column Records

namespace Table

/-- A row that is in a table, under its name. -/
inductive HasRow (t : Table) : TextCell → Row → Prop
  | named {name : String} {row : Row} : t.rows[name]? = some row → HasRow t (.text name) row
  | nameless {name : List UInt8} {row : Row} :
      t.nameless[name]? = some row → HasRow t (.bytes name) row

/-- Records that stand for the rows of a status: each row that has its text is there, once, all
in the order of their names, and nothing else is. -/
structure Complete (t : Table) (s : Status) (found : List Record) : Prop where
  inNameOrder : InNameOrder found
  each : ∀ name row, t.HasRow name row → row.status = .text s.text →
    ∃! r, r ∈ found ∧ row.Means name r
  only : ∀ r ∈ found, ∃ row, t.HasRow (.text r.name) row ∧ row.status = .text s.text ∧
    row.Means (.text r.name) r

/-- The order of names: bytes come after texts. -/
def Precedes : TextCell → TextCell → Prop
  | .text a, .text b => compare a b = .lt
  | .text _, .bytes _ => True
  | .bytes a, .bytes b => compare a b = .lt
  | .bytes _, .text _ => False

variable {t : Table} {name : TextCell} {row : Row} {s : Status}

lemma mem_inOrder_iff : (name, row) ∈ t.inOrder ↔ t.HasRow name row := by
  rw [inOrder, List.mem_append]
  constructor
  · rintro (h | h)
    · obtain ⟨⟨name, row⟩, hmem, ⟨⟩⟩ := List.mem_map.mp h
      exact .named (Std.ExtTreeMap.mem_toList_iff_getElem?_eq_some.mp hmem)
    · obtain ⟨⟨name, row⟩, hmem, ⟨⟩⟩ := List.mem_map.mp h
      exact .nameless (Std.ExtTreeMap.mem_toList_iff_getElem?_eq_some.mp hmem)
  · rintro (h | h)
    · exact .inl (List.mem_map_of_mem (Std.ExtTreeMap.mem_toList_iff_getElem?_eq_some.mpr h))
    · exact .inr (List.mem_map_of_mem (Std.ExtTreeMap.mem_toList_iff_getElem?_eq_some.mpr h))

lemma mem_rowsWithStatus_iff :
    (name, row) ∈ t.rowsWithStatus s ↔ t.HasRow name row ∧ row.status = .text s.text := by
  rw [rowsWithStatus, List.mem_filter, mem_inOrder_iff, beq_iff_eq]

lemma pairwise_inOrder (t : Table) : t.inOrder.Pairwise fun p q => Precedes p.1 q.1 := by
  rw [inOrder, List.pairwise_append]
  refine ⟨?_, ?_, fun p hp q hq => ?_⟩
  · exact List.pairwise_map.mpr Std.ExtTreeMap.ordered_keys_toList
  · exact List.pairwise_map.mpr Std.ExtTreeMap.ordered_keys_toList
  · obtain ⟨p, -, rfl⟩ := List.mem_map.mp hp
    obtain ⟨q, -, rfl⟩ := List.mem_map.mp hq
    trivial

/-- Rows and the records they mean, one for one. -/
abbrev Stand (rows : List (TextCell × Row)) (found : List Record) : Prop :=
  List.Forall₂ (fun p r => p.2.Means p.1 r) rows found

variable {rows : List (TextCell × Row)} {found : List Record}

lemma readRows_eq_ok_iff : readRows rows = .ok found ↔ Stand rows found := by
  rw [readRows, mapM_eq_ok_iff]
  simp only [readRow_eq_ok_iff]

lemma exists_readRows_error_iff :
    (∃ fault, readRows rows = .error fault) ↔ ∃ p ∈ rows, p.2.Malformed p.1 := by
  constructor
  · rintro ⟨fault, h⟩
    obtain ⟨before, p, after, rfl, -, hp⟩ := mapM_eq_error_iff.mp h
    exact ⟨p, by simp, exists_readRow_error_iff.mp ⟨fault, hp⟩⟩
  · rintro ⟨p, hp, hbad⟩
    cases h : readRows rows with
    | error fault => exact ⟨fault, rfl⟩
    | ok found =>
      obtain ⟨r, -, hr⟩ := exists_of_mem_left (readRows_eq_ok_iff.mp h) hp
      exact absurd hr hbad.not_means

namespace Stand

lemma map_name (h : Stand rows found) :
    rows.map Prod.fst = found.map fun r => .text r.name := by
  induction h with
  | nil => rfl
  | cons hrow _ ih => rw [List.map_cons, List.map_cons, ih, hrow.name]

lemma inNameOrder (h : Stand rows found) (hrows : rows.Pairwise fun p q => Precedes p.1 q.1) :
    InNameOrder found := by
  have hnames := List.pairwise_map.mpr hrows
  rw [h.map_name] at hnames
  exact List.pairwise_map.mp hnames

lemma readNames (h : Stand rows found) :
    (rows.mapM fun (name, _) => Row.readName name) = .ok (found.map Record.name) := by
  rw [mapM_eq_ok_iff, List.forall₂_map_right_iff]
  exact h.imp fun p r hr => Row.readText_eq_ok_iff.mpr hr.name

lemma filter (h : Stand rows found) (s : Status) :
    Stand (rows.filter fun (_, row) => row.status == .text s.text)
      (found.filter fun r => r.status == s) := by
  refine List.rel_filter ?_ h
  intro p r hr
  dsimp only
  rw [beq_iff_eq, beq_iff_eq, hr.status, TextCell.text.injEq, Status.text_inj]

end Stand

lemma withStatus_eq_ok_iff :
    RecordStore.withStatus t s = .ok found ↔ Stand (t.rowsWithStatus s) found :=
  readRows_eq_ok_iff

lemma exists_withStatus_error_iff : (∃ fault, RecordStore.withStatus t s = .error fault) ↔
    ∃ name row, t.HasRow name row ∧ row.status = .text s.text ∧ row.Malformed name := by
  refine exists_readRows_error_iff.trans ?_
  simp only [Prod.exists, mem_rowsWithStatus_iff, and_assoc]

lemma find_of_hasRow {domain : String} (h : t.HasRow domain row) :
    RecordStore.find t domain = readRow domain row := by
  obtain ⟨hrow⟩ := h
  exact find_of_some hrow

lemma find_of_no_row {domain : String} (h : ∀ row, ¬t.HasRow domain row) :
    RecordStore.find t domain = .ok (.unseen domain) := by
  cases hrow : t.rows[domain]? with
  | none => exact find_of_none hrow
  | some row => exact absurd (.named hrow) (h row)

lemma complete_of_withStatus (h : RecordStore.withStatus t s = .ok found) : t.Complete s found := by
  have hstand := withStatus_eq_ok_iff.mp h
  have horder := hstand.inNameOrder ((pairwise_inOrder t).filter _)
  refine ⟨horder, fun name row hrow hstatus => ?_, fun r hr => ?_⟩
  · obtain ⟨r, hr, hmeans⟩ :=
      exists_of_mem_left hstand (mem_rowsWithStatus_iff.mpr ⟨hrow, hstatus⟩)
    refine ⟨r, ⟨hr, hmeans⟩, fun r' ⟨_, hmeans'⟩ => ?_⟩
    exact Except.ok.inj ((readRow_eq_ok_iff.mpr hmeans').symm.trans (readRow_eq_ok_iff.mpr hmeans))
  · obtain ⟨⟨name, row⟩, hrow, hmeans⟩ := exists_of_mem_right hstand hr
    obtain ⟨hrow, hstatus⟩ := mem_rowsWithStatus_iff.mp hrow
    obtain rfl := hmeans.name
    exact ⟨row, hrow, hstatus, hmeans⟩

lemma withStatus_of_all (h : RecordStore.all t = .ok found) (s : Status) :
    RecordStore.withStatus t s = .ok (found.filter fun r => r.status == s) :=
  withStatus_eq_ok_iff.mpr ((readRows_eq_ok_iff.mp h).filter s)

end Table

lemma perm_flatMap_filter (rs : List Record) :
    rs.Perm (Status.all.flatMap fun s => rs.filter fun r => r.status == s) := by
  refine List.perm_iff_count.mpr fun a => ?_
  have hcount : ∀ s, (rs.filter fun r => r.status == s).count a =
      if a.status = s then rs.count a else 0 := by
    intro s
    split
    · next h => exact List.count_filter (beq_iff_eq.mpr h)
    · next h =>
      exact List.count_eq_zero.mpr fun hmem => h (beq_iff_eq.mp (List.mem_filter.mp hmem).2)
  rw [List.count_flatMap]
  simp only [Status.all, List.map_cons, List.map_nil, Function.comp_apply, hcount]
  cases a.status <;> simp

namespace Registry

variable {σ : Type} [RecordStore σ] {s : σ} {reg : Registry} {p : Plan}

lemma planOver_eq_ok_iff : reg.planOver s = .ok p ↔
    ∃ list, reg.list = .ok list ∧
    ∃ preloaded, RecordStore.withStatus s .preloaded = .ok preloaded ∧
    ∃ removals, RecordStore.withStatus s .pendingRemoval = .ok removals ∧
    ∃ automated, RecordStore.withStatus s .pendingAutomatedRemoval = .ok automated ∧
      p = .build list preloaded removals automated := by
  simp only [planOver, bind_eq_ok_iff, mapError_eq_ok_iff]
  simp only [pure, Except.pure, Except.ok.injEq, eq_comm]

lemma run_update_of_no_plan {w : World σ} {fault : UpdateFault}
    (h : reg.planOver w.store = .error fault) : w.run reg.update = (⟨"", .error fault⟩, w) := by
  rw [update, World.run_bind, World.run_planUpdate, h]
  rfl

end Registry

namespace Table

/-- A row that an update would have to read is faulty. -/
def Obstructed (t : Table) : Prop :=
  ∃ s ∈ [Status.preloaded, .pendingRemoval, .pendingAutomatedRemoval], ∃ name row,
    t.HasRow name row ∧ row.status = .text s.text ∧ row.Malformed name

lemma obstructed_iff {t : Table} : t.Obstructed ↔
    (∃ fault, RecordStore.withStatus t .preloaded = .error fault) ∨
    (∃ fault, RecordStore.withStatus t .pendingRemoval = .error fault) ∨
    ∃ fault, RecordStore.withStatus t .pendingAutomatedRemoval = .error fault := by
  simp only [Obstructed, exists_withStatus_error_iff, List.mem_cons, List.not_mem_nil, or_false,
    exists_eq_or_imp, exists_eq_left]

variable {t : Table}

lemma exists_parts_of_all {rs : List Record} (h : RecordStore.all t = .ok rs) :
    ∃ parts : Status → List Record, (∀ s, RecordStore.withStatus t s = .ok (parts s)) ∧
      InNameOrder rs ∧ rs.Perm (Status.all.flatMap parts) ∧
      ∀ s s', s ≠ s' → ((parts s).map Record.name).Disjoint ((parts s').map Record.name) := by
  have horder := (readRows_eq_ok_iff.mp h).inNameOrder (pairwise_inOrder t)
  refine ⟨_, withStatus_of_all h, horder, perm_flatMap_filter rs,
    fun s s' hne name hs hs' => hne ?_⟩
  obtain ⟨r, hr, rfl⟩ := List.mem_map.mp hs
  obtain ⟨r', hr', hname⟩ := List.mem_map.mp hs'
  obtain ⟨hr, hstatus⟩ := List.mem_filter.mp hr
  obtain ⟨hr', hstatus'⟩ := List.mem_filter.mp hr'
  have hsame : r' = r := List.inj_on_of_nodup_map horder.nodup hr' hr hname
  rw [← beq_iff_eq.mp hstatus, ← beq_iff_eq.mp hstatus', hsame]

lemma found_of_withStatus {s : Status} {found : List Record}
    (h : RecordStore.withStatus t s = .ok found) :
    RecordStore.namesWithStatus t s = .ok (found.map Record.name) ∧
      ∀ r ∈ found, RecordStore.find t r.name = .ok r := by
  refine ⟨(withStatus_eq_ok_iff.mp h).readNames, fun r hr => ?_⟩
  obtain ⟨row, hrow, -, hmeans⟩ := (complete_of_withStatus h).only r hr
  rw [find_of_hasRow hrow]
  exact readRow_eq_ok_iff.mpr hmeans

lemma run_update_of_obstructed {reg : Registry} {w : World Table}
    (h : (∃ fault, reg.list = .error fault) ∨ w.store.Obstructed) :
    ∃ fault, w.run reg.update = (⟨"", .error fault⟩, w) := by
  cases hplan : reg.planOver w.store with
  | error fault => exact ⟨fault, Registry.run_update_of_no_plan hplan⟩
  | ok p =>
    obtain ⟨list, hlist, preloaded, hpreloaded, removals, hremovals, automated, hautomated, -⟩ :=
      Registry.planOver_eq_ok_iff.mp hplan
    rw [obstructed_iff, hlist, hpreloaded, hremovals, hautomated] at h
    exact absurd h (by simp)

lemma run_update_of_unobstructed {reg : Registry} {w : World Table} {list : PreloadList}
    (hlist : reg.list = .ok list) (h : ¬w.store.Obstructed) :
    ∃ preloaded removals automated, w.store.Complete .preloaded preloaded ∧
      w.store.Complete .pendingRemoval removals ∧
      w.store.Complete .pendingAutomatedRemoval automated ∧
      let p := Plan.build list preloaded removals automated
      let applied := w.run (reg.applyPlan p)
      w.run reg.update = (⟨p.summary ++ applied.1.text, applied.1.outcome⟩, applied.2) := by
  have hread : ∀ s, (¬∃ fault, RecordStore.withStatus w.store s = .error fault) →
      ∃ found, RecordStore.withStatus w.store s = .ok found := by
    intro s hs
    cases hw : RecordStore.withStatus w.store s with
    | error fault => exact absurd ⟨fault, hw⟩ hs
    | ok found => exact ⟨found, rfl⟩
  rw [obstructed_iff, not_or, not_or] at h
  obtain ⟨preloaded, hpreloaded⟩ := hread _ h.1
  obtain ⟨removals, hremovals⟩ := hread _ h.2.1
  obtain ⟨automated, hautomated⟩ := hread _ h.2.2
  have hplan := Registry.planOver_eq_ok_iff.mpr
    ⟨list, hlist, preloaded, hpreloaded, removals, hremovals, automated, hautomated, rfl⟩
  refine ⟨preloaded, removals, automated, complete_of_withStatus hpreloaded,
    complete_of_withStatus hremovals, complete_of_withStatus hautomated, ?_⟩
  rw [Registry.update, World.run_bind, World.run_planUpdate, hplan]
  dsimp only
  rw [World.run_bind]
  rfl

/-- Whatever is in a table, no row is passed over.

The records with a status stand for all rows with its text, in the order of names, and the other
questions agree with them; that they cannot be told means that one of these rows is faulty. A domain
is answered from its own row alone, and is unknown only if it has none. All records are those with
the seven statuses together. An update has read every row that it compares with the list, or else
has done nothing. -/
theorem faulty_rows_surface (t : Table) :
    (∀ s,
      (∀ found, RecordStore.withStatus t s = .ok found → t.Complete s found ∧
        RecordStore.namesWithStatus t s = .ok (found.map Record.name) ∧
        ∀ r ∈ found, RecordStore.find t r.name = .ok r) ∧
      ((∃ fault, RecordStore.withStatus t s = .error fault) ↔
        ∃ name row, t.HasRow name row ∧ row.status = .text s.text ∧ row.Malformed name)) ∧
    (∀ domain : String,
      ((∀ row, ¬t.HasRow domain row) → RecordStore.find t domain = .ok (.unseen domain)) ∧
      ∀ row, t.HasRow domain row →
        (∀ r, RecordStore.find t domain = .ok r ↔ row.Means domain r) ∧
        ((∃ fault, RecordStore.find t domain = .error fault) ↔ row.Malformed domain)) ∧
    (∀ rs, RecordStore.all t = .ok rs →
      ∃ parts : Status → List Record, (∀ s, RecordStore.withStatus t s = .ok (parts s)) ∧
        InNameOrder rs ∧ rs.Perm (Status.all.flatMap parts) ∧
        ∀ s s', s ≠ s' → ((parts s).map Record.name).Disjoint ((parts s').map Record.name)) ∧
    ∀ (reg : Registry) (w : World Table), w.store = t →
      ((∃ fault, reg.list = .error fault) ∨ t.Obstructed →
        ∃ fault, w.run reg.update = (⟨"", .error fault⟩, w)) ∧
      ∀ list, reg.list = .ok list → ¬t.Obstructed →
        ∃ preloaded removals automated, t.Complete .preloaded preloaded ∧
          t.Complete .pendingRemoval removals ∧ t.Complete .pendingAutomatedRemoval automated ∧
          let p := Plan.build list preloaded removals automated
          let applied := w.run (reg.applyPlan p)
          w.run reg.update = (⟨p.summary ++ applied.1.text, applied.1.outcome⟩, applied.2) := by
  refine ⟨fun s => ⟨fun found h => ?_, exists_withStatus_error_iff⟩,
    fun domain => ⟨find_of_no_row, fun row hrow => ?_⟩, fun rs h => exists_parts_of_all h, ?_⟩
  · exact ⟨complete_of_withStatus h, found_of_withStatus h⟩
  · rw [find_of_hasRow hrow]
    exact ⟨fun r => readRow_eq_ok_iff, exists_readRow_error_iff⟩
  · rintro reg w rfl
    exact ⟨run_update_of_obstructed, fun list => run_update_of_unobstructed⟩

/-- Two rows that mean records beside one whose date cannot be read, one with the word of no status
and one whose name is no text. -/
def damaged : Table where
  rows := (∅ : Std.ExtTreeMap String Row).insertMany
    [("b.example", ⟨"preloaded", "", none, .integer 1, "bulk-1-year"⟩),
      ("a.example", ⟨"preloaded", "", none, .integer 0, ""⟩),
      ("c.example", ⟨"pending", "", some "yesterday", .integer 0, ""⟩),
      ("d.example", ⟨"lost", "", none, .integer 0, ""⟩)]
  nameless := (∅ : Std.ExtTreeMap (List UInt8) Row).insert [0xff]
    ⟨"rejected", "", none, .integer 0, ""⟩

theorem damaged_surfaces :
    let kept : List Record := [{ name := "a.example", status := .preloaded },
      ⟨"b.example", .preloaded, "", none, true, .bulk1Year⟩]
    damaged.Complete .preloaded kept ∧
      RecordStore.namesWithStatus damaged .preloaded = .ok ["a.example", "b.example"] ∧
      (∃ fault, RecordStore.withStatus damaged .pending = .error fault) ∧
      (∃ fault, RecordStore.withStatus damaged .rejected = .error fault) ∧
      (∃ fault, RecordStore.find damaged "d.example" = .error fault) ∧
      RecordStore.find damaged "e.example" = .ok (.unseen "e.example") := by
  intro kept
  obtain ⟨hstatus, hdomain, -, -⟩ := faulty_rows_surface damaged
  obtain ⟨hcomplete, hnames, -⟩ := (hstatus .preloaded).1 kept rfl
  refine ⟨hcomplete, hnames, (hstatus .pending).2.mpr ?_, (hstatus .rejected).2.mpr ?_, ?_, ?_⟩
  · exact ⟨"c.example", _, .named rfl, rfl, .unreadableDate rfl rfl⟩
  · exact ⟨.bytes [0xff], _, .nameless rfl, rfl, .name⟩
  · exact ((hdomain "d.example").2 _ (.named rfl)).2.mpr
      (.unknownStatus rfl fun s => by cases s <;> decide)
  · refine (hdomain "e.example").1 fun row hrow => ?_
    obtain ⟨hrow⟩ := hrow
    exact nomatch hrow

end Table

end HstsPreload
