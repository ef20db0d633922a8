import HstsPreload.Proofs.Refinement

/-!
# Updates with one snapshot converge

Updates with one snapshot may be interleaved in any way and broken off anywhere. They only ever
move records to where the first of them was going, and as soon as one of them has written its
whole plan every record has arrived.
-/

namespace HstsPreload

open Program

variable {σ : Type} [RecordStore σ] [LawfulStore σ]

namespace Plan

variable {l : PreloadList}

lemma updates_ofRecords_settled {rs : Records} (hk : rs.Keyed) :
    (ofRecords l (rs.settled l)).updates = [] := by
  have h := updates_after_take l hk (ofRecords l rs).updates.length
  rwa [List.take_length, List.drop_length] at h

end Plan

/-- What is known while some batches of an update are left, whatever others have written in
between: the records are on their way from `start`, the batches bring names to where they are
going, and every other name has arrived. -/
structure Records.Remaining (l : PreloadList) (start : Records) (left : List (List Record))
    (rs : Records) : Prop where
  advances : start.Advances l rs
  due : ∀ r ∈ left.flatten, start.reconciled? l r.name = some r
  arrived : ∀ name ∉ left.flatten.map Record.name, rs[name]? = start.reconciled? l name

namespace Records.Remaining

variable {l : PreloadList} {start rs rs' : Records} {batch : List Record}
  {left : List (List Record)}

lemma later (h : Remaining l start left rs) (hr : rs.Advances l rs') :
    Remaining l start left rs' where
  advances := h.advances.trans hr
  due := h.due
  arrived name hname := by
    rw [← h.advances.reconciled?] at *
    refine hr.settled ?_
    rw [h.arrived name hname, h.advances.reconciled?]

lemma write (h : Remaining l start (batch :: left) rs) :
    rs.Advances l (rs.putAll batch) ∧ Remaining l start left (rs.putAll batch) := by
  have hbatch : ∀ r ∈ batch, start.reconciled? l r.name = some r := fun r hr =>
    h.due r (List.mem_append_left _ hr)
  have hadvances : rs.Advances l (rs.putAll batch) := by
    refine Records.Advances.putAll fun r hr => ?_
    rw [h.advances.reconciled?, hbatch r hr]
  refine ⟨hadvances, h.advances.trans hadvances, fun r hr => h.due r (List.mem_append_right _ hr),
    fun name hname => ?_⟩
  by_cases hb : name ∈ batch.map Record.name
  · obtain ⟨r, hr, rfl, hg⟩ := exists_getElem?_putAll rs batch name hb
    rw [hg, hbatch r hr]
  · rw [getElem?_putAll_of_notMem rs batch name hb]
    refine h.arrived name fun hn => ?_
    rw [List.flatten_cons, List.map_append, List.mem_append] at hn
    exact hn.elim hb hname

lemma eq_settled (hk : start.Keyed) (h : Remaining l start [] rs) : rs = start.settled l :=
  Records.eq_settled hk fun name => h.arrived name List.not_mem_nil

end Records.Remaining

namespace Registry

/-- Every access moves the records towards the list. -/
def towards (l : PreloadList) : Contract :=
  .shared (Records.Advances l) (.refl l) .trans

/-- A rule for updates among other updates with the same snapshot. -/
theorem keeps_update_towards {reg : Registry} (hb : reg.Batched) {l : PreloadList}
    (hl : reg.list = .ok l) {start : Records} (hk : start.Keyed) :
    reg.update.Keeps (towards l) (fun rs r =>
      UpdateEnds (towards l) (fun _ => Records.Remaining l start) start rs r.outcome) start := by
  refine keeps_update hb (fun _ => Records.Remaining l start) (fun _ _ _ _ h hr => h.later hr)
    (fun _ _ _ _ h => h.write) ?_
  intro l' hl' rs₁ rs₂ rs₃ rs' h₁ h₂ h₃ h'
  rw [hl] at hl'
  cases hl'
  intro p
  obtain ⟨hdue, harrived⟩ := Plan.updates_of_moments l (h₁.keyed hk) h₂ h₃
  have hstart : ∀ name, rs₁.reconciled? l name = start.reconciled? l name := h₁.reconciled?
  have hplanned : Records.Remaining l start (Writer.batches p.updates) rs₃ := by
    refine ⟨h₁.trans (h₂.trans h₃), fun r hr => ?_, fun name hname => ?_⟩
    · rw [Writer.flatten_batches] at hr
      rw [← hstart, hdue r hr]
    · rw [Writer.flatten_batches] at hname
      rw [← hstart, harrived name hname]
  exact hplanned.later h'

/-- A plan that is made now has these records to write, and over a store that works one is. -/
def Plans (reg : Registry) (w : World σ) (updates : List Record) : Prop :=
  (LawfulStore.Works w.store → ∃ p, (w.run reg.planUpdate).1 = .ok p) ∧
    ∀ p, (w.run reg.planUpdate).1 = .ok p → p.updates = updates

lemma plans_ofRecords {reg : Registry} {l : PreloadList} (hl : reg.list = .ok l) (w : World σ) :
    reg.Plans w (Plan.ofRecords l w.records).updates := by
  refine ⟨fun hworks => ⟨.ofRecords l w.records, ?_⟩, fun p hp => ?_⟩
  · rw [World.run_planUpdate_of_works hl hworks]
  · rw [World.plan_of_run hl hp]

/-- Updates with one snapshot over one store, interleaved in any way and broken off anywhere. An
update without interruption or failure settles the records. In any schedule each record is as it
was at the start or settled. From the moment on at which one update has nothing left to write
and can only report success, all records are settled and plans have no updates. A lone update
that fails has written a number of whole batches of its plan, and the next plan is the rest of
that plan. -/
theorem updates_converge (l : PreloadList) (regs : List Registry)
    (hregs : ∀ reg ∈ regs, reg.Batched ∧ reg.list = .ok l) (w : World σ) (hk : w.records.Keyed) :
    (∀ reg ∈ regs, ∀ alone : World σ, alone.records = w.records →
      LawfulStore.Works alone.store →
        (alone.run reg.planUpdate).1 = .ok (.ofRecords l w.records) ∧
        (∃ n, (alone.run reg.update).1.outcome = .ok n) ∧
        (alone.run reg.update).2.records = w.records.settled l) ∧
    (∀ (w₁ : World σ) (threads : List (Program UpdateReport)),
      Relation.ReflTransGen World.Interleaved (w, regs.map Registry.update) (w₁, threads) →
        (∀ name : String, w₁.records[name]? = w.records[name]? ∨
          w₁.records[name]? = (w.records.settled l)[name]?) ∧
        ∀ p ∈ threads, p.Settled (fun r => ∃ n, r.outcome = .ok n) →
          ∀ (w₂ : World σ) (threads' : List (Program UpdateReport)),
            Relation.ReflTransGen World.Interleaved (w₁, threads) (w₂, threads') →
              w₂.records = w.records.settled l ∧
              ∀ reg ∈ regs, reg.Plans w₂ []) ∧
    ∀ reg ∈ regs, ∀ (w₁ : World σ) (r : UpdateReport) (told : Bool) (fault : StoreFault),
      Relation.ReflTransGen World.Step (w, reg.update) (w₁, .done r) →
      r.outcome = .error (.write told fault) →
        ∃ j, Writer.batchSize * j < (Plan.ofRecords l w.records).updates.length ∧
          w₁.records = w.records.putAll
            ((Plan.ofRecords l w.records).updates.take (Writer.batchSize * j)) ∧
          ∀ reg' ∈ regs, ∀ w₂ : World σ, w₁.Drifts w₂ → reg'.Plans w₂
            ((Plan.ofRecords l w.records).updates.drop (Writer.batchSize * j)) := by
  refine ⟨fun reg hreg alone halone hworks => ?_, fun w₁ threads hrun => ?_,
    fun reg hreg w₁ r told fault hrun hr => ?_⟩
  · obtain ⟨hb, hl⟩ := hregs reg hreg
    have hsucceeds := World.run_update_of_works hb hl hworks
    refine ⟨?_, ⟨_, hsucceeds⟩, ?_⟩
    · rw [World.run_planUpdate_of_works hl hworks, halone]
    · rw [← halone]
      exact (settled_of_ok hb hl (alone.run_steps _) hsucceeds).1
  · have hkeeps : ∀ p ∈ regs.map Registry.update, p.Keeps (towards l) _ w.records :=
      List.forall_mem_map.mpr fun reg hreg =>
        keeps_update_towards (hregs reg hreg).1 (hregs reg hreg).2 hk
    obtain ⟨hadvances, hkeeps₁⟩ := Keeps.interleaved (fun _ _ h => h) hkeeps hrun
    refine ⟨fun name => ?_, fun p hp hsettled w₂ threads' hrun' => ?_⟩
    · rw [Records.getElem?_settled l hk]
      exact hadvances name
    · obtain ⟨report, ⟨n, hn⟩, hends⟩ := (hkeeps₁ p hp).of_settled hsettled
      rw [hn] at hends
      obtain ⟨-, -, hremaining⟩ := hends.of_ok
      -- what has arrived stays where it is, whatever the others still write
      obtain ⟨hadvances', -⟩ := Keeps.interleaved (fun _ _ h => h) hkeeps₁ hrun'
      have hw₂ : w₂.records = w.records.settled l := (hremaining.later hadvances').eq_settled hk
      refine ⟨hw₂, fun reg hreg => ?_⟩
      have hplans := plans_ofRecords (hregs reg hreg).2 w₂
      rwa [hw₂, Plan.updates_ofRecords_settled hk] at hplans
  · obtain ⟨hb, hl⟩ := hregs reg hreg
    obtain ⟨j, hj, hw₁⟩ := written_of_write_error hb hl hrun hr
    refine ⟨j, hj, hw₁, fun reg' hreg' w₂ hdrift => ?_⟩
    have hplans := plans_ofRecords (hregs reg' hreg').2 w₂
    rwa [hdrift.1, hw₁, Plan.updates_after_take l hk] at hplans

theorem second_update_changes_nothing :
    let reg := listing ⟨[⟨"new.example", .bulk1Year, .forceHttps, true⟩]⟩
    let w : World MemoryStore := .holding [{ name := "old.example", status := .preloaded }]
    ∀ (w₂ : World MemoryStore) (threads : List (Program UpdateReport)),
      Relation.ReflTransGen World.Interleaved
        ((w.run reg.update).2, [.done (w.run reg.update).1, reg.update]) (w₂, threads) →
          w₂.records["old.example"]? = some { name := "old.example", status := .removed } := by
  intro reg w w₂ threads hrun
  have hregs : ∀ reg' ∈ [reg, reg], reg'.Batched ∧
      reg'.list = .ok ⟨[⟨"new.example", .bulk1Year, .forceHttps, true⟩]⟩ := by
    intro reg' hreg
    rw [List.mem_pair, or_self] at hreg
    rw [hreg]
    exact ⟨rfl, rfl⟩
  obtain ⟨halone, hinterleaved, -⟩ :=
    updates_converge _ [reg, reg] hregs w (World.keyed_holding _)
  obtain ⟨-, hok, -⟩ := halone reg List.mem_cons_self w rfl (World.works_holding _)
  have hfirst : Relation.ReflTransGen World.Interleaved (w, [reg.update, reg.update])
      ((w.run reg.update).2, [.done (w.run reg.update).1, reg.update]) :=
    World.interleaved_of_steps 0 rfl (w.run_steps reg.update)
  have hlater := (hinterleaved _ _ hfirst).2 _ List.mem_cons_self hok w₂ threads hrun
  rw [hlater.1]
  rfl

end Registry

end HstsPreload
