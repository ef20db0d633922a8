import HstsPreload.ListSource
import HstsPreload.Proofs.Readers
import HstsPreload.Proofs.Routing
import HstsPreload.Proofs.Spelling
import HstsPreload.Proofs.Stores
import HstsPreload.Proofs.Upkeep

/-!
# What is known of lawful stores is known of the table

The table answers as a finite map of records does as long as the dates that it holds lie in the
years from 0 to 9999 and its policies are those that their tags stand for. The registry writes no
others, as its lists are read from texts. So whatever requests and operations do over a table, in
any order of their reads and writes, they do over the store in memory that holds the same records,
with the same answers: what holds of all runs over lawful stores holds of those over the table.
-/

namespace HstsPreload

open HstsPreload.Json HstsPreload.Web

/-! ### Lists that were read -/

lemma Policy.gives_read : Gives Policy.Proper Policy.read := by
  intro cs rest p h
  obtain ⟨⟨tag, more⟩, -, h⟩ := exists_of_bind_ok h
  cases h
  rw [Policy.Proper, Policy.text_ofText]

lemma Entry.gives_read : Gives (fun e : Entry => e.policy.Proper) Entry.read := by
  have hkind : Gives (fun d : Draft => ∀ p, d.policy = some p → p.Proper) kind.read := by
    refine RecordKind.gives_read (fun p hp => nomatch hp) ?_
    simp only [kind, List.forall_mem_cons]
    refine ⟨?_, ?_, ?_, ?_, by simp⟩
    · exact Member.keeps_field_of_set _ _ fun _ _ hd => hd
    · exact Member.keeps_field _ _ Policy.gives_read fun _ _ _ hp p h => Option.some.inj h ▸ hp
    · exact Member.keeps_field_of_set _ _ fun _ _ hd => hd
    · exact Member.keeps_field_of_set _ _ fun _ _ hd => hd
  intro cs rest e h
  obtain ⟨⟨d, more⟩, hread, h⟩ := exists_of_bind_ok h
  cases h
  cases hp : d.policy with
  | none =>
    rw [ofDraft, hp]
    rfl
  | some p =>
    rw [ofDraft, hp]
    exact hkind _ _ _ hread p hp

namespace PreloadList

lemma gives_read :
    Gives (fun l : PreloadList => ∀ e ∈ l.entries, e.policy.Proper) PreloadList.read := by
  have hkind : Gives (fun d : Option (List Entry) =>
      ∀ es, d = some es → ∀ e ∈ es, e.policy.Proper) kind.read := by
    refine RecordKind.gives_read (fun es hes => nomatch hes) (List.forall_mem_singleton.mpr ?_)
    exact Member.keeps_field _ _ Entry.gives_read.readList fun _ _ _ hall es h =>
      Option.some.inj h ▸ hall
  intro cs rest l h
  obtain ⟨⟨found, more⟩, hread, h⟩ := exists_of_bind_ok h
  cases h
  cases found with
  | none => simp
  | some es => exact hkind _ _ _ hread es rfl

/-- The policies in a list that was fetched are those that the tags in it stand for. -/
theorem proper_of_latest {net : Network} {url : String} {l : PreloadList}
    (h : latest net url = .ok l) : ∀ e ∈ l.entries, e.policy.Proper := by
  obtain ⟨reply, -, h⟩ := exists_of_bind_ok h
  obtain ⟨bytes, -, h⟩ := exists_of_bind_ok h
  obtain ⟨text, -, h⟩ := exists_of_bind_ok h
  obtain ⟨rest, hread⟩ := exists_of_readAll (mapError_eq_ok_iff.mp h)
  exact gives_read _ _ _ hread

end PreloadList

/-! ### Records that last -/

/-- A record that the table gives back as it is. -/
structure Record.Lasting (r : Record) : Prop where
  dated : r.Dated
  spelled : r.Spelled

/-- A registry whose clock shows a year from 0 to 9999 and whose list was read from a text. -/
structure Registry.Lasting (reg : Registry) : Prop where
  now : reg.now.Ordinary
  proper {l : PreloadList} {e : Entry} : reg.list = .ok l → e ∈ l.entries → e.policy.Proper

lemma Registry.lasting_of_latest {reg : Registry} {net : Network} {url : String}
    (hnow : reg.now.Ordinary) (hlist : reg.list = PreloadList.latest net url) : reg.Lasting where
  now := hnow
  proper hl he := PreloadList.proper_of_latest (hlist ▸ hl) _ he

namespace Record

lemma lasting_of_undated {r : Record} (hdate : r.submissionDate = none) (h : r.policy.Proper) :
    r.Lasting where
  dated t ht := by rw [hdate] at ht; cases ht
  spelled := h.symm

lemma lasting_unseen (name : String) : (unseen name).Lasting :=
  lasting_of_undated rfl rfl

lemma Lasting.onReconcile {r r' : Record} (h : r.Lasting)
    (hd : r.onReconcile none = .transition r') : r'.Lasting := by
  obtain ⟨e, he, -⟩ | ⟨-, -, rfl⟩ | ⟨-, -, rfl⟩ := onReconcile_cases hd
  · cases he
  · exact ⟨h.dated, h.spelled⟩
  · exact ⟨h.dated, h.spelled⟩

lemma map_asWritten {rs : List Record} (h : ∀ r ∈ rs, r.Lasting) : rs.map asWritten = rs :=
  (List.map_congr_left fun r hr => (h r hr).spelled.asWritten).trans (List.map_id' rs)

end Record

lemma Registry.Lasting.maintains {reg : Registry} (h : reg.Lasting) :
    reg.Maintains Record.Lasting where
  decided {op rs r} hrs hd := by
    have hnow : ∀ t, some reg.now = some t → t.Ordinary := fun t ht => Option.some.inj ht ▸ h.now
    cases op with
    | submit domain =>
      obtain ⟨rfl, -⟩ := Record.onSubmit_accept hd.2
      exact ⟨hnow, rfl⟩
    | remove domain =>
      obtain ⟨rfl, -⟩ := Record.onRemove_accept hd.2
      exact ⟨hnow, (hrs.get Record.lasting_unseen domain).spelled⟩
    | setPreloaded domain =>
      rw [Operation.Decides] at hd
      exact hd ▸ Record.lasting_of_undated rfl rfl
    | update => exact hd.elim
  listed hl he := Record.lasting_of_undated rfl (h.proper hl he)
  delisted hr hd := hr.onReconcile hd

/-! ### Worlds with a table -/

namespace World

/-- The world with its records in a table. -/
def tabled (v : World MemoryStore) : World Table where
  store := .ofRecords v.records
  cache := v.cache
  time := v.time

/-- A world whose store works and holds records that last. -/
structure Lasting (v : World MemoryStore) : Prop where
  healthy : v.store.Healthy
  sound : v.records.Sound Record.Lasting

/-- Whatever table holds records that last is the table of such a world. -/
lemma exists_tabled {w : World Table} {rs : Records} (h : w.store.Holds rs)
    (hspelled : rs.All Record.Spelled) : ∃ v : World MemoryStore,
      v.Lasting ∧ v.records = rs ∧ v.tabled = w := by
  obtain ⟨t, cache, time⟩ := w
  obtain ⟨rfl, hkeyed, hdated⟩ := h
  refine ⟨⟨{ records := rs }, cache, time⟩, ⟨⟨rfl, rfl, by simp⟩, hkeyed, ?_⟩, rfl, rfl⟩
  exact fun name r hr => ⟨hdated name r hr, hspelled name r hr⟩

variable {v : World MemoryStore}

lemma Lasting.holds (h : v.Lasting) : v.tabled.store.Holds v.records :=
  ⟨rfl, h.sound.keyed, fun name r hr => (h.sound.all name r hr).dated⟩

lemma Lasting.find_tabled (h : v.Lasting) (domain : String) :
    RecordStore.find v.tabled.store domain = RecordStore.find v.store domain := by
  have hmemory : RecordStore.find v.store domain = .ok (v.records.get domain) :=
    h.healthy.answer _
  have hlasting := h.sound.all.get Record.lasting_unseen domain
  rw [hmemory, ← hlasting.spelled.asWritten]
  exact Table.representation.find domain h.holds

lemma Lasting.withStatus_tabled (h : v.Lasting) (s : Status) :
    RecordStore.withStatus v.tabled.store s = RecordStore.withStatus v.store s := by
  have hmemory : RecordStore.withStatus v.store s = .ok (v.records.withStatus s) :=
    h.healthy.answer _
  have hback := Record.map_asWritten fun r hr => h.sound.all.of_mem_withStatus (s := s) hr
  rw [hmemory, ← hback]
  exact Table.representation.withStatus s h.holds

lemma Lasting.all_tabled (h : v.Lasting) :
    RecordStore.all v.tabled.store = RecordStore.all v.store := by
  have hmemory : RecordStore.all v.store = .ok v.records.inOrder := h.healthy.answer _
  rw [hmemory, ← Record.map_asWritten h.sound.all.of_mem_inOrder]
  exact Table.representation.all h.holds

/-- The table answers as the store in memory does, and holds the same records afterwards. -/
theorem Lasting.answer_tabled (h : v.Lasting) (a : Access) :
    v.tabled.answer a = ((v.answer a).1, (v.answer a).2.tabled) := by
  cases a with
  | load domain => exact congrArg (·, v.tabled) (h.find_tabled domain)
  | loadList s => exact congrArg (·, v.tabled) (h.withStatus_tabled s)
  | loadAll => exact congrArg (·, v.tabled) h.all_tabled
  | check => exact congrArg (·, v.tabled) (h.healthy.answer ()).symm
  | commit batch =>
    obtain ⟨hok, -⟩ := h.healthy.write batch
    have hafter : LawfulStore.records (RecordStore.write v.store batch).withinDeadline.2 =
        v.records.putAll batch := LawfulStore.write_ok hok
    have htable := Table.foldl_put_ofRecords v.records batch
    rw [← hafter] at htable
    exact congrArg₂ (fun outcome store => (outcome, { v.tabled with store })) hok.symm htable
  | cached domain | cachedList s | generation | keep g r | keepList g s rs | invalidate => rfl

lemma Lasting.answer (h : v.Lasting) {a : Access}
    (hs : (v.answer a).2.records.Sound Record.Lasting) : (v.answer a).2.Lasting where
  healthy := by
    cases a with
    | commit batch => exact (h.healthy.write batch).2
    | _ => exact h.healthy
  sound := hs

variable {α : Type} {post : Records → α → Prop}

/-- A program that runs over the table without interruption does there what it does in memory. -/
theorem Lasting.run_tabled (h : v.Lasting) {p : Program α}
    (hp : p.Keeps (.maintaining Record.Lasting) post v.records) :
    v.tabled.run p = ((v.run p).1, (v.run p).2.tabled) ∧ (v.run p).2.Lasting := by
  induction p generalizing v with
  | done a => exact ⟨rfl, h⟩
  | step a next ih =>
    obtain ⟨hsound, hnext⟩ := hp _ _ _ (Contract.rely_refl _ _) (v.answers_answer a)
    have hrest := ih (v.answer a).1 (h.answer (hsound h.sound)) hnext
    have htabled : v.tabled.run (.step a next) =
        (v.tabled.answer a).2.run (next (v.tabled.answer a).1) := rfl
    rw [htabled, h.answer_tabled]
    exact hrest

section Turns

variable {σ : Type} [RecordStore σ]

/-- After some time, one of several programs makes its next access. -/
inductive Turns : World σ × List (Program α) → World σ × List (Program α) → Prop where
  | turn (w : World σ) (threads : List (Program α)) (pause i : Nat) : i < threads.length →
      Turns (w, threads) (World.turn (w.later pause, threads) i)

lemma interleaved_of_turns [LawfulStore σ] {x y : World σ × List (Program α)} (h : Turns x y) :
    Relation.ReflTransGen Interleaved x y := by
  cases h with
  | turn w threads pause i hi =>
    have hlater : Interleaved (w, threads) (w.later pause, threads.set i threads[i]) :=
      .step i (List.getElem?_eq_getElem hi) (.drift _ ⟨rfl, rfl, Nat.le_add_right _ _⟩)
    rw [List.set_getElem_self] at hlater
    exact .tail (.single hlater) (interleaved_turn _ hi)

end Turns

lemma Lasting.later (h : v.Lasting) (pause : Nat) : (v.later pause).Lasting :=
  ⟨h.healthy, h.sound⟩

lemma Lasting.turn_tabled (h : v.Lasting) (threads : List (Program α)) (i : Nat) :
    turn (v.tabled, threads) i =
      ((turn (v, threads) i).1.tabled, (turn (v, threads) i).2) := by
  unfold turn
  dsimp only
  split
  · next a next _ => rw [h.answer_tabled]
  · rfl

lemma Lasting.turn (h : v.Lasting) {threads : List (Program α)} {i : Nat}
    (hs : (World.turn (v, threads) i).1.records.Sound Record.Lasting) :
    (World.turn (v, threads) i).1.Lasting := by
  unfold World.turn at hs ⊢
  dsimp only at hs ⊢
  split at hs
  · exact h.answer hs
  · exact h

/-- Programs that share a table, in any order of their accesses, do what they do in some order
over the store in memory, and have come equally far. -/
theorem Lasting.turns_tabled (h : v.Lasting) {threads threads' : List (Program α)}
    (hkeeps : ∀ p ∈ threads, p.Keeps (.maintaining Record.Lasting) post v.records)
    {w : World Table} (hs : Relation.ReflTransGen Turns (v.tabled, threads) (w, threads')) :
    ∃ v' : World MemoryStore, Relation.ReflTransGen Interleaved (v, threads) (v', threads') ∧
      v'.Lasting ∧ w = v'.tabled := by
  refine holds_along (P := fun x : World Table × List (Program α) => ∃ v' : World MemoryStore,
    Relation.ReflTransGen Interleaved (v, threads) (v', x.2) ∧ v'.Lasting ∧ x.1 = v'.tabled)
    ?_ hs ⟨v, .refl, h, rfl⟩
  rintro _ _ ⟨_, ts, pause, i, hi⟩ ⟨v₁, hrun, hlasting, rfl⟩
  have hrun' := hrun.trans (interleaved_of_turns (.turn v₁ ts pause i hi))
  have hsound := (Program.Keeps.interleaved (fun _ _ h => h) hkeeps hrun').1 h.sound
  have htabled : World.turn (v₁.tabled.later pause, ts) i =
      ((World.turn (v₁.later pause, ts) i).1.tabled, (World.turn (v₁.later pause, ts) i).2) :=
    (hlasting.later pause).turn_tabled ts i
  rw [htabled]
  exact ⟨_, hrun', (hlasting.later pause).turn hsound, rfl⟩

end World

/-! ### The service -/

/-- Requests that are answered over a table, in any order of their reads and writes, are answered
as they are over the store in memory in some order, and leave the same records. -/
theorem Registry.requests_over_table {calls : List (Registry × Request)}
    (hcalls : ∀ call ∈ calls, call.1.Batched ∧ call.1.Lasting) {v : World MemoryStore}
    (hv : v.Lasting) {w : World Table} {threads : List (Program Response)}
    (hs : Relation.ReflTransGen World.Turns
      (v.tabled, calls.map fun call => call.1.respond call.2) (w, threads)) :
    ∃ v' : World MemoryStore, Relation.ReflTransGen World.Interleaved
      (v, calls.map fun call => call.1.respond call.2) (v', threads) ∧
      v'.Lasting ∧ w = v'.tabled := by
  have hkeeps : ∀ p ∈ calls.map fun call => call.1.respond call.2,
      p.Keeps (.maintaining Record.Lasting) (fun _ _ => True) v.records := by
    refine List.forall_mem_map.mpr fun call hc => ?_
    obtain ⟨hb, hreg⟩ := hcalls call hc
    exact keeps_respond_of_asks fun op _ => hreg.maintains.keeps_program hb op hv.sound
  exact hv.turns_tabled hkeeps hs

/-- So are the operations that write. -/
theorem Operation.operations_over_table {requests : List (Registry × Operation)}
    (hrequests : ∀ x ∈ requests, x.1.Batched ∧ x.1.Lasting) {v : World MemoryStore}
    (hv : v.Lasting) {w : World Table} {threads : List (Program Reply)}
    (hs : Relation.ReflTransGen World.Turns
      (v.tabled, requests.map fun x => x.2.program x.1) (w, threads)) :
    ∃ v' : World MemoryStore, Relation.ReflTransGen World.Interleaved
      (v, requests.map fun x => x.2.program x.1) (v', threads) ∧ v'.Lasting ∧ w = v'.tabled := by
  have hkeeps : ∀ p ∈ requests.map fun x => x.2.program x.1,
      p.Keeps (.maintaining Record.Lasting) (fun _ _ => True) v.records := by
    refine List.forall_mem_map.mpr fun x hx => ?_
    obtain ⟨hb, hreg⟩ := hrequests x hx
    exact hreg.maintains.keeps_program hb x.2 hv.sound
  exact hv.turns_tabled hkeeps hs

/-- So whatever the registries maintain holds at any time of the records in the table. -/
theorem Operation.table_maintains {P : Record → Prop} {requests : List (Registry × Operation)}
    (hrequests : ∀ x ∈ requests, x.1.Batched ∧ x.1.Lasting)
    (hmaintains : ∀ x ∈ requests, x.1.Maintains P) {v : World MemoryStore} (hv : v.Lasting)
    (hall : v.records.All P) {w : World Table} {threads : List (Program Reply)}
    (hs : Relation.ReflTransGen World.Turns
      (v.tabled, requests.map fun x => x.2.program x.1) (w, threads)) :
    ∃ rs : Records, w.store.Holds rs ∧ rs.Sound P := by
  obtain ⟨v', hrun, hlasting, rfl⟩ := operations_over_table hrequests hv hs
  have hbatched : ∀ x ∈ requests, x.1.Batched := fun x hx => (hrequests x hx).1
  exact ⟨v'.records, hlasting.holds,
    interleaved_maintain hbatched hmaintains ⟨hv.sound.keyed, hall⟩ hrun⟩

end HstsPreload
