import HstsPreload.Proofs.Refinement
import HstsPreload.Proofs.Upkeep

/-!
# The shape of stored records

What the status of a stored record tells about its other fields. Every record that is written
has this shape, also one that is made from a record which has since been overwritten, so no
interleaving of operations can bring about any other.
-/

namespace HstsPreload

open Program

/-- What can be told of a stored record from its status. -/
structure Record.Shaped (r : Record) : Prop where
  message : r.message ≠ "" ↔ r.status = .rejected ∨ r.status = .pendingRemoval
  pending : r.status = .pending →
    r.submissionDate.isSome ∧ r.includeSubDomains = true ∧ r.policy = .bulk1Year
  undated : r.status = .preloaded ∨ r.status = .removed → r.submissionDate = none
  leaving : r.status = .pendingRemoval ∨ r.status = .rejected →
    r.submissionDate.isSome ∧ r.includeSubDomains = false ∧ r.isProtected = false
  stored : r.status ≠ .unknown ∧ r.status ≠ .pendingAutomatedRemoval

namespace Record

lemma shaped_submitted (r : Record) (now : Instant) : (r.submitted now).Shaped := by
  constructor <;> simp [submitted]

lemma shaped_leaving {r : Record} (h : r.isProtected = false) (now : Instant) :
    (r.leaving now).Shaped := by
  have hmessage : removalMessage ≠ "" := by decide
  constructor <;> simp_all [leaving, isProtected]

lemma shaped_listed (r : Record) (e : Entry) : (r.listed e).Shaped := by
  constructor <;> simp [listed]

lemma shaped_preloaded (domain : String) :
    ({ name := domain, status := .preloaded } : Record).Shaped := by
  constructor <;> simp

lemma Shaped.onReconcile {r r' : Record} {entry : Option Entry} (h : r.Shaped)
    (hd : r.onReconcile entry = .transition r') : r'.Shaped := by
  obtain ⟨e, -, -, rfl⟩ | ⟨-, hs, rfl⟩ | ⟨-, hs, rfl⟩ := onReconcile_cases hd
  · exact shaped_listed r e
  · have hdate := h.undated (.inl hs)
    constructor <;> simp [hdate]
  · obtain ⟨hdate, hsub, hpolicy⟩ := h.leaving (.inl hs)
    have hmessage : selfRejectedMessage ≠ "" := by decide
    constructor <;> simp_all [isProtected]

end Record

lemma Operation.Decides.shaped {reg : Registry} {op : Operation} {rs : Records} {r : Record}
    (h : op.Decides reg rs r) : r.Shaped := by
  cases op with
  | submit domain =>
    obtain ⟨rfl, -⟩ := Record.onSubmit_accept h.2
    exact Record.shaped_submitted _ _
  | remove domain =>
    obtain ⟨rfl, -, hp⟩ := Record.onRemove_accept h.2
    exact Record.shaped_leaving hp _
  | setPreloaded domain =>
    rw [Operation.Decides] at h
    rw [h]
    exact Record.shaped_preloaded domain
  | update => exact h.elim

lemma Registry.maintains_shaped (reg : Registry) : reg.Maintains Record.Shaped where
  decided _ hd := hd.shaped
  listed _ _ := Record.shaped_listed _ _
  delisted h hd := h.onReconcile hd

/-- Each record stands under its own name and has the shape that its status tells. -/
def Records.Shaped (rs : Records) : Prop :=
  ∀ (name : String) (r : Record), rs[name]? = some r → r.name = name ∧ r.Shaped

lemma Records.shaped_iff {rs : Records} : rs.Shaped ↔ rs.Sound Record.Shaped :=
  ⟨fun h => ⟨fun name r hr => (h name r hr).1, fun name r hr => (h name r hr).2⟩,
    fun h name r hr => ⟨h.keyed name r hr, h.all name r hr⟩⟩

/-- Operations that start over shaped records, for instance over none, and run interleaved in
any way, each with a scanner, a list and a clock of its own, only ever leave shaped records,
wherever their reads and writes fail. -/
theorem Operation.interleaved_stay_shaped {σ : Type} [RecordStore σ] [LawfulStore σ] :
    Records.Shaped ∅ ∧
    ∀ (requests : List (Registry × Operation)), (∀ x ∈ requests, x.1.Batched) →
      ∀ w w' : World σ, w.records.Shaped → ∀ threads : List (Program Reply),
        Relation.ReflTransGen World.Interleaved
          (w, requests.map fun x => x.2.program x.1) (w', threads) → w'.records.Shaped := by
  refine ⟨Records.shaped_iff.mpr Records.sound_empty, fun requests hb w w' hw threads hrun => ?_⟩
  rw [Records.shaped_iff] at hw ⊢
  exact interleaved_maintain hb (fun x _ => x.1.maintains_shaped) hw hrun

namespace Delisting

def requests : List (Registry × Operation) :=
  [(.listing ⟨[]⟩, .remove "old.example"), (.listing ⟨[]⟩, .update)]

/-- A removal request and an update are about to begin. -/
def start : World MemoryStore × List (Program Reply) :=
  (.holding [{ name := "old.example", status := .preloaded }],
    requests.map fun x => x.2.program x.1)

/-- The request is decided; then the update writes that the domain has left the list. -/
def delisted : World MemoryStore × List (Program Reply) :=
  [0, 1, 1, 1, 1].foldl World.turn start

/-- The decision is written over it. -/
def finished : World MemoryStore × List (Program Reply) :=
  [1, 0, 0].foldl World.turn delisted

lemma shaped_start : start.1.records.Shaped := by
  refine Records.shaped_iff.mpr (Records.sound_empty.putAll ?_)
  exact List.forall_mem_singleton.mpr (Record.shaped_preloaded _)

lemma reaches_delisted : Relation.ReflTransGen World.Interleaved start delisted :=
  World.reaches_foldl_turn _ _ (by simp [start, requests])

lemma reaches_finished : Relation.ReflTransGen World.Interleaved start finished := by
  refine reaches_delisted.trans (World.reaches_foldl_turn _ _ ?_)
  rw [delisted, World.length_foldl_turn]
  simp [start, requests]

end Delisting

open Delisting in
theorem Operation.shaped_after_delisting :
    delisted.1.records.Shaped ∧ (delisted.1.records.get "old.example").status = .removed ∧
      finished.1.records.Shaped ∧
      (finished.1.records.get "old.example").status = .pendingRemoval := by
  have hb : ∀ x ∈ requests, x.1.Batched := by
    simp [requests, Registry.listing, Registry.Batched]
  have hshaped := (interleaved_stay_shaped (σ := MemoryStore)).2 requests hb start.1
  exact ⟨hshaped delisted.1 shaped_start delisted.2 reaches_delisted, rfl,
    hshaped finished.1 shaped_start finished.2 reaches_finished, rfl⟩

end HstsPreload
