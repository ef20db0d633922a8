import HstsPreload.Proofs.Reconciliation
import HstsPreload.Proofs.Writing
import Mathlib.Data.Set.Card

/-!
# Updates bring the records in line with the list

An update that runs alone writes its plan batch by batch. If it goes through, every record has
become what its own comparison with the snapshot asks for.
-/

namespace HstsPreload

open Program

variable {σ : Type} [RecordStore σ] [LawfulStore σ]

/-- The records once all that a plan made from them holds is written. -/
def Records.settled (rs : Records) (l : PreloadList) : Records :=
  rs.putAll (Plan.ofRecords l rs).updates

namespace Records

lemma getElem?_settled {rs : Records} (l : PreloadList) (hk : rs.Keyed) (name : String) :
    (rs.settled l)[name]? = rs.reconciled? l name :=
  Plan.getElem?_putAll_updates l hk name

lemma eq_settled {rs rs' : Records} {l : PreloadList} (hk : rs.Keyed)
    (h : ∀ name : String, rs'[name]? = rs.reconciled? l name) : rs' = rs.settled l := by
  refine Std.ExtTreeMap.ext_getElem? fun name => ?_
  rw [h, getElem?_settled l hk]

end Records

lemma Plan.ncard_names {p : Plan} (h : (p.updates.map Record.name).Nodup) :
    {name | name ∈ p.updates.map Record.name}.ncard = p.totalUpdates := by
  rw [← List.coe_toFinset, Set.ncard_coe_finset, List.toFinset_card_of_nodup h, List.length_map,
    length_updates]

namespace Registry

/-- The plan for the records of a store: of the list and the three reads, the first that fails is
told. -/
def planOver {σ : Type} [RecordStore σ] (reg : Registry) (s : σ) : Except UpdateFault Plan := do
  let list ← reg.list.mapError .list
  let preloaded ← (RecordStore.withStatus s .preloaded).mapError (.read "preloaded")
  let pendingRemoval ←
    (RecordStore.withStatus s .pendingRemoval).mapError (.read "pending removal")
  let automated ← (RecordStore.withStatus s .pendingAutomatedRemoval).mapError
    (.read "pending automated removal")
  return .build list preloaded pendingRemoval automated

end Registry

namespace World

omit [LawfulStore σ] in
lemma run_planUpdate (w : World σ) (reg : Registry) :
    w.run reg.planUpdate = (reg.planOver w.store, w) := by
  have hload : ∀ s, w.run (access (.loadList s)) = (RecordStore.withStatus w.store s, w) :=
    fun _ => rfl
  unfold Registry.planUpdate Registry.planOver
  cases reg.list with
  | error fault => rfl
  | ok l =>
    dsimp only
    rw [run_bind, hload]
    cases RecordStore.withStatus w.store .preloaded with
    | error fault => rfl
    | ok preloaded =>
      dsimp only
      rw [run_bind, hload]
      cases RecordStore.withStatus w.store .pendingRemoval with
      | error fault => rfl
      | ok pendingRemoval =>
        dsimp only
        rw [run_bind, hload]
        cases RecordStore.withStatus w.store .pendingAutomatedRemoval <;> rfl

lemma run_commitAll_of_works (w : World σ) (h : LawfulStore.Works w.store)
    (batches : List (List Record)) :
    (w.run (Writer.commitAll batches)).1.outcome = .ok () := by
  induction batches generalizing w with
  | nil => rfl
  | cons batch left ih =>
    obtain ⟨hok, hworks⟩ := LawfulStore.write_works batch h
    rw [Writer.commitAll, run_bind]
    have hanswer : (w.run (access (.commit batch))).1 = .ok () := hok
    rw [hanswer]
    dsimp only
    rw [run_bind]
    exact ih _ hworks

variable {reg : Registry} {l : PreloadList} {w : World σ}

lemma run_planUpdate_of_works (hl : reg.list = .ok l) (h : LawfulStore.Works w.store) :
    w.run reg.planUpdate = (.ok (.ofRecords l w.records), w) := by
  have hread : ∀ s, RecordStore.withStatus w.store s = .ok (w.records.withStatus s) :=
    fun s => congrArg Prod.fst (answer_loadList_of_works h s)
  rw [run_planUpdate, Registry.planOver, hl, hread, hread, hread]
  rfl

lemma run_applyPlan_of_works (hb : reg.Batched) (h : LawfulStore.Works w.store) (p : Plan) :
    (w.run (reg.applyPlan p)).1.outcome = .ok p.totalUpdates := by
  have hwritten : (w.run (Writer.putAll p.updates)).1.outcome = .ok () := by
    unfold Writer.putAll
    split
    · rfl
    · exact run_commitAll_of_works w h _
  rw [Registry.applyPlan, hb, run_bind]
  change (p.report (w.run (Writer.putAll p.updates)).1).outcome = _
  simp only [Plan.report, hwritten, Plan.length_updates]

lemma run_update_of_works (hb : reg.Batched) (hl : reg.list = .ok l)
    (h : LawfulStore.Works w.store) :
    (w.run reg.update).1.outcome = .ok (Plan.ofRecords l w.records).totalUpdates := by
  rw [Registry.update, run_bind, run_planUpdate_of_works hl h]
  dsimp only
  rw [run_bind]
  exact run_applyPlan_of_works hb h _

end World

namespace Registry

/-- How far an update that runs alone has come when the batches `left` of its plan remain. -/
def WrittenAlone (reg : Registry) (start : Records) (p : Plan) (left : List (List Record))
    (rs : Records) : Prop :=
  ∃ l, reg.list = .ok l ∧ p = .ofRecords l start ∧
    ∃ j, left = (Writer.batches p.updates).drop j ∧
      rs = start.putAll (p.updates.take (Writer.batchSize * j))

lemma WrittenAlone.of_nil {reg : Registry} {start rs : Records} {p : Plan}
    (h : reg.WrittenAlone start p [] rs) :
    ∃ l, reg.list = .ok l ∧ p = .ofRecords l start ∧ rs = start.settled l := by
  obtain ⟨l, hl, rfl, j, hj, rfl⟩ := h
  have hrest := Writer.flatten_drop_batches (Plan.ofRecords l start).updates j
  rw [← hj, List.flatten_nil] at hrest
  refine ⟨l, hl, rfl, ?_⟩
  rw [Records.settled, List.take_of_length_le (List.drop_eq_nil_iff.mp hrest.symm)]

/-- A rule for updates that run alone: `during` has to hold after every number of batches. -/
theorem keeps_update_alone {reg : Registry} (hb : reg.Batched) (during : Records → Prop)
    (rs : Records) (hd : ∀ l j, reg.list = .ok l →
      during (rs.putAll ((Plan.ofRecords l rs).updates.take (Writer.batchSize * j)))) :
    reg.update.Keeps (.alone during)
      (fun rs' r => UpdateEnds (.alone during) (reg.WrittenAlone rs) rs rs' r.outcome) rs := by
  refine keeps_update hb (reg.WrittenAlone rs) ?_ ?_ ?_
  · rintro p left rs₁ _ h rfl
    exact h
  · rintro p batch left _ ⟨l, hl, rfl, j, hj, rfl⟩
    have hnext := Writer.putAll_next_batch rs hj.symm
    refine ⟨fun _ => ?_, l, hl, rfl, j + 1, ?_, hnext⟩
    · rw [hnext]
      exact hd l (j + 1) hl
    · rw [← List.drop_drop, ← hj]
      rfl
  · -- nobody else writes, so the three queries see the same records
    rintro l hl _ _ _ _ rfl rfl rfl rfl
    exact ⟨l, hl, rfl, 0, rfl, rfl⟩

lemma update_ends_alone {reg : Registry} (hb : reg.Batched) {w w' : World σ}
    {report : UpdateReport}
    (h : Relation.ReflTransGen World.Step (w, reg.update) (w', .done report)) :
    UpdateEnds (.alone fun _ => True) (reg.WrittenAlone w.records) w.records w'.records
      report.outcome :=
  ((keeps_update_alone hb _ w.records fun _ _ _ => trivial).steps trivial h).2 _ rfl

lemma settled_of_ok {reg : Registry} (hb : reg.Batched) {l : PreloadList} (hl : reg.list = .ok l)
    {w w' : World σ} {report : UpdateReport} {n : Nat}
    (h : Relation.ReflTransGen World.Step (w, reg.update) (w', .done report))
    (hn : report.outcome = .ok n) :
    w'.records = w.records.settled l ∧ n = (Plan.ofRecords l w.records).totalUpdates := by
  have hend := update_ends_alone hb h
  rw [hn] at hend
  obtain ⟨p, rfl, hp⟩ := hend.of_ok
  obtain ⟨l', hl', rfl, hw'⟩ := hp.of_nil
  rw [hl] at hl'
  cases hl'
  exact ⟨hw', rfl⟩

lemma written_of_write_error {reg : Registry} (hb : reg.Batched) {l : PreloadList}
    (hl : reg.list = .ok l) {w w' : World σ} {report : UpdateReport} {told : Bool}
    {fault : StoreFault}
    (h : Relation.ReflTransGen World.Step (w, reg.update) (w', .done report))
    (hf : report.outcome = .error (.write told fault)) :
    ∃ j, Writer.batchSize * j < (Plan.ofRecords l w.records).updates.length ∧
      w'.records = w.records.putAll
        ((Plan.ofRecords l w.records).updates.take (Writer.batchSize * j)) := by
  have hend := update_ends_alone hb h
  rw [hf] at hend
  obtain ⟨p, left, hne, l', hl', rfl, j, hj, hw'⟩ := hend.of_write_error
  rw [hl] at hl'
  cases hl'
  rw [hj] at hne
  exact ⟨j, Writer.lt_length_of_drop_batches hne, hw'⟩

lemma keeps_planUpdate_alone (reg : Registry) {during : Records → Prop} (rs : Records) :
    reg.planUpdate.Keeps (.alone during) (fun rs' answer => rs' = rs ∧
      ∀ p, answer = .ok p → ∃ l, reg.list = .ok l ∧ p = .ofRecords l rs) rs := by
  refine reg.keeps_planUpdate ?_ ?_
  · rintro l hl _ _ _ _ rfl rfl rfl rfl
    exact ⟨rfl, fun p hp => ⟨l, hl, (Except.ok.inj hp).symm⟩⟩
  · rintro _ fault rfl -
    exact ⟨rfl, fun p hp => by cases hp⟩

end Registry

lemma World.plan_of_run {reg : Registry} {l : PreloadList} (hl : reg.list = .ok l) {w : World σ}
    {p : Plan} (h : (w.run reg.planUpdate).1 = .ok p) : p = .ofRecords l w.records := by
  have hk : reg.planUpdate.Keeps (.alone fun _ => True) _ w.records :=
    reg.keeps_planUpdate_alone w.records
  obtain ⟨l', hl', hp⟩ := (hk.run trivial).2 p h
  rw [hl] at hl'
  cases hl'
  exact hp

def World.holding (records : List Record) : World MemoryStore :=
  { store := { records := Records.putAll ∅ records } }

lemma World.keyed_holding (records : List Record) : (World.holding records).records.Keyed :=
  Records.keyed_empty.putAll records

lemma World.works_holding (records : List Record) :
    LawfulStore.Works (World.holding records).store :=
  ⟨rfl, rfl, by simp [World.holding]⟩

namespace Registry

/-- A registry that finds nothing wrong with any domain, with a list to compare with. -/
def listing (l : PreloadList) : Registry where
  scanner := ⟨fun _ _ => {}, fun _ => {}⟩
  list := .ok l
  now := ⟨0, 0⟩

/-- A whole update, alone or over a store whose failures come and go: where it reports success,
each record is what its own comparison with the snapshot asks for, no other record has been
touched, and the count is the number of records that changed. It does report success over a
store that works. Its plan names each record that changes, once, and no other. -/
theorem update_reconciles_each_record (reg : Registry) (hb : reg.Batched) (l : PreloadList)
    (hl : reg.list = .ok l) (w : World σ) (hk : w.records.Keyed) :
    (LawfulStore.Works w.store → ∃ p, (w.run reg.planUpdate).1 = .ok p ∧
      (w.run reg.update).1.outcome = .ok p.totalUpdates) ∧
    (∀ p, (w.run reg.planUpdate).1 = .ok p → (p.updates.map Record.name).Nodup ∧
      ∀ name, name ∈ p.updates.map Record.name ↔
        w.records.reconciled? l name ≠ w.records[name]?) ∧
    ∀ (w' : World σ) (report : UpdateReport) (n : Nat),
      Relation.ReflTransGen World.Step (w, reg.update) (w', .done report) →
      report.outcome = .ok n →
      (∀ name : String, w'.records[name]? = w.records.reconciled? l name) ∧
        n = {name : String | w'.records[name]? ≠ w.records[name]?}.ncard := by
  refine ⟨fun hworks => ?_, fun p hp => ?_, fun w' report n hrun hn => ?_⟩
  · refine ⟨.ofRecords l w.records, ?_, World.run_update_of_works hb hl hworks⟩
    rw [World.run_planUpdate_of_works hl hworks]
  · rw [World.plan_of_run hl hp]
    exact ⟨Plan.nodup_updates_ofRecords l hk, Plan.mem_names_updates_iff l hk⟩
  · obtain ⟨hw', rfl⟩ := settled_of_ok hb hl hrun hn
    have hrec : ∀ name : String, w'.records[name]? = w.records.reconciled? l name := by
      intro name
      rw [hw', Records.getElem?_settled l hk]
    refine ⟨hrec, ?_⟩
    have hnames : {name : String | w'.records[name]? ≠ w.records[name]?} =
        {name | name ∈ (Plan.ofRecords l w.records).updates.map Record.name} := by
      ext name
      rw [Set.mem_ofPred_eq, Set.mem_ofPred_eq, hrec, Plan.mem_names_updates_iff l hk]
    rw [hnames, Plan.ncard_names (Plan.nodup_updates_ofRecords l hk)]

theorem update_removes_delisted_name :
    let reg := listing ⟨[⟨"new.example", .bulk1Year, .forceHttps, true⟩]⟩
    let w : World MemoryStore := .holding [{ name := "old.example", status := .preloaded }]
    (∃ n, (w.run reg.update).1.outcome = .ok n) ∧
      (w.run reg.update).2.records["old.example"]? =
        some { name := "old.example", status := .removed } := by
  intro reg w
  have hupdate := update_reconciles_each_record reg rfl _ rfl w (World.keyed_holding _)
  obtain ⟨p, -, hn⟩ := hupdate.1 (World.works_holding _)
  refine ⟨⟨_, hn⟩, ?_⟩
  rw [(hupdate.2.2 _ _ _ (w.run_steps reg.update) hn).1]
  rfl

end Registry

end HstsPreload
