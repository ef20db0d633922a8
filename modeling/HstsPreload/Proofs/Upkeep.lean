import HstsPreload.Proofs.Operations
import HstsPreload.Proofs.Reconciliation

/-!
# What holds of every record that is written

A record comes to be written because an operation on its domain decided it, because the list has
an entry for it, or because the list no longer has one. What holds of the record each time, as
long as it held of those that were read before, holds of all records however operations are
interleaved, also where a record is made from one that has since been overwritten.
-/

namespace HstsPreload

open Program

/-- What holds of each record that a registry writes, as long as it holds of those it has read. -/
structure Registry.Maintains (reg : Registry) (P : Record → Prop) : Prop where
  decided {op : Operation} {rs : Records} {r : Record} : rs.All P → op.Decides reg rs r → P r
  listed {l : PreloadList} {e : Entry} : reg.list = .ok l → e ∈ l.entries → P e.record
  delisted {r r' : Record} : P r → r.onReconcile none = .transition r' → P r'

/-- Each record stands under its own name, and something holds of all of them. -/
structure Records.Sound (P : Record → Prop) (rs : Records) : Prop where
  keyed : rs.Keyed
  all : rs.All P

variable {P : Record → Prop}

lemma Records.sound_empty : Sound P ∅ :=
  ⟨keyed_empty, all_empty P⟩

lemma Records.Sound.putAll {rs : Records} (h : rs.Sound P) {batch : List Record}
    (hb : ∀ r ∈ batch, P r) : (rs.putAll batch).Sound P :=
  ⟨h.keyed.putAll batch, h.all.putAll hb⟩

lemma Records.Sound.put {rs : Records} (h : rs.Sound P) {r : Record} (hr : P r) :
    (rs.put r).Sound P :=
  have hone : ∀ s ∈ [r], P s := List.forall_mem_singleton.mpr hr
  h.putAll hone

/-- Whoever finds the records sound leaves them sound. -/
def Contract.maintaining (P : Record → Prop) : Contract :=
  .shared (fun rs rs' => rs.Sound P → rs'.Sound P) (fun _ => id) fun h h' => h' ∘ h

/-- The records are sound, and so are those in the batches that are left to write. -/
structure Records.SoundWith (P : Record → Prop) (left : List (List Record)) (rs : Records) :
    Prop where
  written : rs.Sound P
  planned : ∀ batch ∈ left, ∀ r ∈ batch, P r

lemma Records.SoundWith.write {batch : List Record} {left : List (List Record)} {rs : Records}
    (h : SoundWith P (batch :: left) rs) : SoundWith P left (rs.putAll batch) where
  written := h.written.putAll (h.planned batch List.mem_cons_self)
  planned b hb := h.planned b (List.mem_cons_of_mem _ hb)

namespace Registry

variable {reg : Registry}

lemma Maintains.reconciled (h : reg.Maintains P) {l : PreloadList} (hl : reg.list = .ok l)
    {r r' : Record} (hr : P r) (hd : r.onReconcile (l.first? r.name) = .transition r') : P r' := by
  cases hf : l.first? r.name with
  | none => exact h.delisted hr (hf ▸ hd)
  | some e =>
    obtain ⟨e', he, -, rfl⟩ | ⟨hn, -⟩ | ⟨hn, -⟩ := Record.onReconcile_cases hd
    · obtain rfl : e = e' := Option.some.inj (hf.symm.trans he)
      have hrecord : r.listed e = e.record :=
        Record.listed_congr e (PreloadList.name_of_first? hf).symm
      rw [hrecord]
      exact h.listed hl (PreloadList.exists_of_first? hf).1
    · exact absurd (hf.symm.trans hn) (Option.some_ne_none e)
    · exact absurd (hf.symm.trans hn) (Option.some_ne_none e)

/-- The records that a plan is made from may have been read at different moments. -/
lemma Maintains.updates (h : reg.Maintains P) {l : PreloadList} (hl : reg.list = .ok l)
    {rs₁ rs₂ : Records} (h₁ : rs₁.All P) (h₂ : rs₂.All P) (automated : List Record) :
    ∀ r ∈ (Plan.build l (rs₁.withStatus .preloaded) (rs₂.withStatus .pendingRemoval)
      automated).updates, P r := by
  intro r hr
  obtain ⟨e, he, -, rfl⟩ | ⟨s, hs, hd⟩ | ⟨s, hs, hd⟩ := (Plan.mem_updates_build _ _ _ _ r).mp hr
  · exact h.listed hl (PreloadList.exists_of_first? he).1
  · exact h.reconciled hl (h₁.of_mem_withStatus hs) hd
  · exact h.reconciled hl (h₂.of_mem_withStatus hs) hd

lemma Maintains.keeps_update (h : reg.Maintains P) (hb : reg.Batched) {rs : Records}
    (hrs : rs.Sound P) : reg.update.Keeps (.maintaining P) (fun _ _ => True) rs := by
  refine (Registry.keeps_update hb (fun _ => Records.SoundWith P) ?_ ?_ ?_).mono
    fun _ _ _ => trivial
  · intro _ left rs₁ rs₂ hk hr
    exact ⟨hr hk.written, hk.planned⟩
  · intro _ batch left rs' hk
    exact ⟨fun _ => hk.write.written, hk.write⟩
  · -- each query sees sound records, whatever has been written since the one before
    intro l hl rs₁ rs₂ rs₃ rs' h₁ h₂ h₃ h' p
    have hs₁ := h₁ hrs
    have hs₂ := h₂ hs₁
    refine ⟨h' (h₃ hs₂), fun batch hbatch r hr => ?_⟩
    have hmem : r ∈ (Writer.batches p.updates).flatten := List.mem_flatten_of_mem hbatch hr
    rw [Writer.flatten_batches] at hmem
    exact h.updates hl hs₁.all hs₂.all _ r hmem

/-- What a registry maintains is maintained by each of its operations. -/
theorem Maintains.keeps_program (h : reg.Maintains P) (hb : reg.Batched) (op : Operation)
    {rs : Records} (hrs : rs.Sound P) :
    (op.program reg).Keeps (.maintaining P) (fun _ _ => True) rs := by
  by_cases hop : op = .update
  · rw [hop]
    exact (h.keeps_update hb hrs).bind fun _ _ _ => Keeps.pure fun _ _ => trivial
  · refine Operation.keeps_decided hb op hop fun rs₁ rs₂ r h₁ _ hd hs => ?_
    exact hs.put (h.decided (h₁ hrs).all hd)

end Registry

/-- What all registries maintain holds of all records, wherever reads and writes are interleaved
and wherever they fail. -/
theorem Operation.interleaved_maintain {σ : Type} [RecordStore σ] [LawfulStore σ]
    {requests : List (Registry × Operation)} (hb : ∀ x ∈ requests, x.1.Batched)
    (h : ∀ x ∈ requests, x.1.Maintains P) {w w' : World σ} (hw : w.records.Sound P)
    {threads : List (Program Reply)} (hrun : Relation.ReflTransGen World.Interleaved
      (w, requests.map fun x => x.2.program x.1) (w', threads)) : w'.records.Sound P := by
  have hkeeps : ∀ p ∈ requests.map fun x => x.2.program x.1,
      p.Keeps (.maintaining P) (fun _ _ => True) w.records :=
    List.forall_mem_map.mpr fun x hx => (h x hx).keeps_program (hb x hx) x.2 hw
  exact (Keeps.interleaved (fun _ _ h => h) hkeeps hrun).1 hw

end HstsPreload
