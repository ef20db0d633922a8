import HstsPreload.Proofs.Interleaving
import HstsPreload.Proofs.Rows
import HstsPreload.Proofs.Timestamps
import HstsPreload.Proofs.Writing

/-!
# The two stores are one store

The store in memory keeps records as they are, the table keeps a row of texts and numbers for
each. Both answer every sequence of calls as a finite map of records would; the table gives a
policy back as the one that its tag stands for.
-/

namespace HstsPreload

inductive StoreCall where
  | put (r : Record)
  | putAll (updates : List Record)
  | writeBatch (batch : List Record)
  | find (domain : String)
  | withStatus (s : Status)
  | namesWithStatus (s : Status)
  | all

inductive StoreReply where
  | written (outcome : Except StoreFault Unit)
  | reported (report : Writer.Report)
  | record (answer : Except StoreFault Record)
  | records (answer : Except StoreFault (List Record))
  | names (answer : Except StoreFault (List String))

namespace StoreReply

def mapRecords (f : Record → Record) : StoreReply → StoreReply
  | record answer => .record (answer.map f)
  | records answer => .records (answer.map (List.map f))
  | reply => reply

def contents : StoreReply → List Record
  | record (.ok r) => [r]
  | records (.ok rs) => rs
  | _ => []

def Succeeded : StoreReply → Prop
  | written outcome => outcome = .ok ()
  | reported report => report.outcome = .ok ()
  | record answer => ∃ r, answer = .ok r
  | records answer => ∃ rs, answer = .ok rs
  | names answer => ∃ names, answer = .ok names

lemma mapRecords_eq_self {f : Record → Record} {reply : StoreReply}
    (h : ∀ r ∈ reply.contents, f r = r) : reply.mapRecords f = reply := by
  cases reply with
  | record answer =>
    cases answer with
    | error fault => rfl
    | ok r => exact congrArg (fun r => record (.ok r)) (h r List.mem_cons_self)
  | records answer =>
    cases answer with
    | error fault => rfl
    | ok rs =>
      have hmap : rs.map f = rs := (List.map_congr_left h).trans (List.map_id' rs)
      exact congrArg (fun rs => records (.ok rs)) hmap
  | _ => rfl

end StoreReply

/-- What the writer tells when nothing fails. -/
def Writer.complete (updates : List Record) : Report where
  progress :=
    if updates.isEmpty then ["No updates.\n"]
    else (batches updates).flatMap fun batch =>
      [s!"Updating {batch.length} entries...", " done.\n"]
  outcome := .ok ()

namespace StoreCall

/-- Makes a call; gives the answer and the store after it. -/
def perform {σ : Type} [RecordStore σ] (s : σ) : StoreCall → StoreReply × σ
  | put r =>
    let (report, w) := ({ store := s } : World σ).run (Writer.putAll [r])
    (.written report.outcome, w.store)
  | putAll updates =>
    let (report, w) := ({ store := s } : World σ).run (Writer.putAll updates)
    (.reported report, w.store)
  | writeBatch batch =>
    let (outcome, s) := (RecordStore.write s batch).withinDeadline
    (.written outcome, s)
  | find domain => (.record (RecordStore.find s domain), s)
  | withStatus status => (.records (RecordStore.withStatus s status), s)
  | namesWithStatus status => (.names (RecordStore.namesWithStatus s status), s)
  | all => (.records (RecordStore.all s), s)

def answers {σ : Type} [RecordStore σ] (s : σ) : List StoreCall → List StoreReply
  | [] => []
  | call :: calls => (call.perform s).1 :: answers (call.perform s).2 calls

def written : StoreCall → List Record
  | put r => [r]
  | putAll rs | writeBatch rs => rs
  | _ => []

/-- What a finite map of records answers. -/
def reply (rs : Records) : StoreCall → StoreReply
  | put _ | writeBatch _ => .written (.ok ())
  | putAll updates => .reported (Writer.complete updates)
  | find domain => .record (.ok (rs.get domain))
  | withStatus s => .records (.ok (rs.withStatus s))
  | namesWithStatus s => .names (.ok ((rs.withStatus s).map Record.name))
  | all => .records (.ok rs.inOrder)

def replies (rs : Records) : List StoreCall → List StoreReply
  | [] => []
  | call :: calls => call.reply rs :: replies (rs.putAll call.written) calls

lemma succeeded_of_mem_replies {rs : Records} {calls : List StoreCall} :
    ∀ reply ∈ replies rs calls, reply.Succeeded := by
  induction calls generalizing rs with
  | nil => intro reply h; cases h
  | cons call calls ih =>
    refine List.forall_mem_cons.mpr ⟨?_, ih⟩
    cases call with
    | put r | writeBatch batch | putAll updates => rfl
    | find domain | withStatus s | namesWithStatus s | all => exact ⟨_, rfl⟩

end StoreCall

lemma StoreCall.of_mem_replies {P : Record → Prop} (hunseen : ∀ name, P (.unseen name))
    {rs : Records} (h : rs.All P) {calls : List StoreCall}
    (hcalls : ∀ call ∈ calls, ∀ r ∈ call.written, P r) :
    ∀ reply ∈ replies rs calls, ∀ r ∈ reply.contents, P r := by
  induction calls generalizing rs with
  | nil => intro reply hr; cases hr
  | cons call calls ih =>
    obtain ⟨hcall, hcalls⟩ := List.forall_mem_cons.mp hcalls
    refine List.forall_mem_cons.mpr ⟨?_, ih (h.putAll hcall) hcalls⟩
    cases call with
    | put r | writeBatch batch | putAll updates | namesWithStatus s => intro r hr; cases hr
    | find domain => exact List.forall_mem_singleton.mpr (h.get hunseen domain)
    | withStatus s => exact fun r hr => h.of_mem_inOrder r (List.mem_of_mem_filter hr)
    | all => exact h.of_mem_inOrder

/-- A store that keeps records in a form of its own: when it holds some records, which ones it
takes, and how it gives them back. -/
structure Representation (σ : Type) [RecordStore σ] where
  holds : σ → Records → Prop
  takes : Record → Prop
  back : Record → Record
  find {s : σ} {rs : Records} (domain : String) : holds s rs →
    RecordStore.find s domain = .ok (back (rs.get domain))
  withStatus {s : σ} {rs : Records} (status : Status) : holds s rs →
    RecordStore.withStatus s status = .ok ((rs.withStatus status).map back)
  namesWithStatus {s : σ} {rs : Records} (status : Status) : holds s rs →
    RecordStore.namesWithStatus s status = .ok ((rs.withStatus status).map Record.name)
  all {s : σ} {rs : Records} : holds s rs → RecordStore.all s = .ok (rs.inOrder.map back)
  write {s : σ} {rs : Records} {batch : List Record} : holds s rs → (∀ r ∈ batch, takes r) →
    (RecordStore.write s batch).withinDeadline.1 = .ok () ∧
      holds (RecordStore.write s batch).withinDeadline.2 (rs.putAll batch)

namespace Representation

variable {σ : Type} [RecordStore σ] (k : Representation σ) {s : σ} {rs : Records}

lemma run_commitAll {w : World σ} (h : k.holds w.store rs) {batches : List (List Record)}
    (hb : ∀ batch ∈ batches, ∀ r ∈ batch, k.takes r) :
    (w.run (Writer.commitAll batches)).1 = ⟨batches.flatMap fun batch =>
      [s!"Updating {batch.length} entries...", " done.\n"], .ok ()⟩ ∧
    k.holds (w.run (Writer.commitAll batches)).2.store (rs.putAll batches.flatten) := by
  induction batches generalizing w rs with
  | nil => exact ⟨rfl, h⟩
  | cons batch left ih =>
    obtain ⟨hbatch, hleft⟩ := List.forall_mem_cons.mp hb
    obtain ⟨hok, hafter⟩ := k.write h hbatch
    have hanswer : (w.run (Program.access (.commit batch))).1 = .ok () := hok
    obtain ⟨hreport, hholds⟩ :=
      ih (w := (w.run (Program.access (.commit batch))).2) hafter hleft
    rw [Writer.commitAll, World.run_bind, hanswer]
    dsimp only
    rw [World.run_bind, hreport]
    rw [List.flatten_cons, Records.putAll_append]
    exact ⟨rfl, hholds⟩

lemma run_putAll {w : World σ} (h : k.holds w.store rs) {updates : List Record}
    (hu : ∀ r ∈ updates, k.takes r) :
    (w.run (Writer.putAll updates)).1 = Writer.complete updates ∧
      k.holds (w.run (Writer.putAll updates)).2.store (rs.putAll updates) := by
  unfold Writer.putAll Writer.complete
  by_cases hempty : updates.isEmpty = true
  · rw [if_pos hempty, if_pos hempty, List.isEmpty_iff.mp hempty]
    exact ⟨rfl, h⟩
  · rw [if_neg hempty, if_neg hempty]
    -- cutting the records into batches loses none and adds none
    have hb : ∀ batch ∈ Writer.batches updates, ∀ r ∈ batch, k.takes r := by
      intro batch hbatch r hr
      refine hu r ?_
      rw [← Writer.flatten_batches updates]
      exact List.mem_flatten_of_mem hbatch hr
    have hrun := k.run_commitAll h hb
    rwa [Writer.flatten_batches] at hrun

lemma perform (h : k.holds s rs) {call : StoreCall} (hc : ∀ r ∈ call.written, k.takes r) :
    (call.perform s).1 = (call.reply rs).mapRecords k.back ∧
      k.holds (call.perform s).2 (rs.putAll call.written) := by
  cases call with
  | put r =>
    obtain ⟨hreport, hholds⟩ := k.run_putAll (w := { store := s }) h hc
    refine ⟨?_, hholds⟩
    exact congrArg (fun report : Writer.Report => StoreReply.written report.outcome) hreport
  | putAll updates =>
    obtain ⟨hreport, hholds⟩ := k.run_putAll (w := { store := s }) h hc
    exact ⟨congrArg StoreReply.reported hreport, hholds⟩
  | writeBatch batch =>
    obtain ⟨hok, hholds⟩ := k.write h hc
    exact ⟨congrArg StoreReply.written hok, hholds⟩
  | find domain => exact ⟨congrArg StoreReply.record (k.find domain h), h⟩
  | withStatus status => exact ⟨congrArg StoreReply.records (k.withStatus status h), h⟩
  | namesWithStatus status => exact ⟨congrArg StoreReply.names (k.namesWithStatus status h), h⟩
  | all => exact ⟨congrArg StoreReply.records (k.all h), h⟩

theorem answers (h : k.holds s rs) {calls : List StoreCall}
    (hc : ∀ call ∈ calls, ∀ r ∈ call.written, k.takes r) :
    StoreCall.answers s calls = (StoreCall.replies rs calls).map (.mapRecords k.back) := by
  induction calls generalizing s rs with
  | nil => rfl
  | cons call calls ih =>
    obtain ⟨hcall, hcalls⟩ := List.forall_mem_cons.mp hc
    obtain ⟨hreply, hholds⟩ := k.perform h hcall
    rw [StoreCall.answers, StoreCall.replies, List.map_cons, hreply, ih hholds hcalls]

end Representation

/-- How the store in memory keeps records: as they are. -/
def MemoryStore.representation : Representation MemoryStore where
  holds s rs := s.Healthy ∧ s.records = rs
  takes _ := True
  back r := r
  find domain h := by
    obtain ⟨hs, rfl⟩ := h
    exact hs.answer _
  withStatus status h := by
    obtain ⟨hs, rfl⟩ := h
    rw [List.map_id']
    exact hs.answer _
  namesWithStatus status h := by
    obtain ⟨hs, rfl⟩ := h
    exact hs.answer _
  all h := by
    obtain ⟨hs, rfl⟩ := h
    rw [List.map_id']
    exact hs.answer _
  write h _ := by
    obtain ⟨hs, rfl⟩ := h
    obtain ⟨hok, hhealthy⟩ := hs.write _
    exact ⟨hok, hhealthy, LawfulStore.write_ok hok⟩

namespace Policy

lemma text_ofText (tag : String) : (ofText tag).text = tag := by
  unfold ofText
  cases hp : named.find? fun p => p.text == tag with
  | none => rfl
  | some p =>
    have htext := List.find?_some hp
    exact beq_iff_eq.mp htext

end Policy

namespace Record

/-- A record as the table gives it back. -/
def asWritten (r : Record) : Record :=
  { r with policy := .ofText r.policy.text }

/-- The date of a record, if it has one, can be written down in full. -/
def Dated (r : Record) : Prop :=
  ∀ t, r.submissionDate = some t → t.Ordinary

end Record

lemma Row.means_ofRecord {r : Record} (h : r.Dated) :
    Row.Means (.text r.name) (.ofRecord r) r.asWritten := by
  refine ⟨rfl, rfl, rfl, ?_, ⟨if r.includeSubDomains then 1 else 0, rfl, ?_⟩, _, rfl, rfl⟩
  · change Row.MeansDate (r.submissionDate.map (.text ∘ Rfc3339.write)) r.submissionDate
    cases hr : r.submissionDate with
    | none => exact .empty
    | some t => exact .read (Rfc3339.read_write (h t hr))
  · change r.includeSubDomains = _
    cases r.includeSubDomains <;> rfl

namespace Table

def ofRecords (rs : Records) : Table :=
  { rows := rs.map fun _ r => .ofRecord r }

lemma put_ofRecords (rs : Records) (r : Record) :
    (ofRecords rs).put r = ofRecords (rs.put r) := by
  unfold put ofRecords
  congr 1
  refine Std.ExtTreeMap.ext_getElem? fun name => ?_
  rw [Std.ExtTreeMap.getElem?_insert, Std.ExtTreeMap.getElem?_map, Std.ExtTreeMap.getElem?_map,
    Records.getElem?_put]
  simp only [Std.LawfulEqOrd.compare_eq_iff_eq]
  split <;> rfl

lemma foldl_put_ofRecords (rs : Records) (batch : List Record) :
    batch.foldl put (ofRecords rs) = ofRecords (rs.putAll batch) := by
  induction batch generalizing rs with
  | nil => rfl
  | cons r batch ih => rw [List.foldl_cons, put_ofRecords, ih, Records.putAll_cons]

lemma inOrder_ofRecords (rs : Records) :
    (ofRecords rs).inOrder = rs.toList.map fun p => (.text p.1, .ofRecord p.2) := by
  have hrows : (ofRecords rs).rows.toList = rs.toList.map fun p => (p.1, .ofRecord p.2) :=
    Std.ExtTreeMap.toList_map
  have hnameless : (ofRecords rs).nameless.toList = [] := rfl
  rw [inOrder, hrows, hnameless, List.map_nil, List.append_nil, List.map_map]
  rfl

lemma rowsWithStatus_ofRecords (rs : Records) (s : Status) :
    (ofRecords rs).rowsWithStatus s =
      (rs.toList.filter fun p => p.2.status == s).map fun p => (.text p.1, .ofRecord p.2) := by
  rw [rowsWithStatus, inOrder_ofRecords, List.filter_map]
  congr 2
  funext p
  rw [Bool.eq_iff_iff]
  simp [Row.ofRecord, Status.text_inj]

lemma readRows_map {records : List (String × Record)}
    (h : ∀ p ∈ records, p.2.name = p.1 ∧ p.2.Dated) :
    readRows (records.map fun p => (.text p.1, .ofRecord p.2)) =
      .ok ((records.map Prod.snd).map Record.asWritten) := by
  refine mapM_eq_ok_iff.mpr ?_
  rw [List.forall₂_map_left_iff, List.map_map, List.forall₂_map_right_iff, List.forall₂_same]
  intro p hp
  obtain ⟨hname, hdated⟩ := h p hp
  exact readRow_eq_ok_iff.mpr (hname ▸ Row.means_ofRecord hdated)

lemma readNames_map (records : List (String × Record)) :
    ((records.map fun p => (Column.TextCell.text p.1, Row.ofRecord p.2)).mapM
      fun (name, _) => Row.readName name) = .ok (records.map Prod.fst) := by
  refine mapM_eq_ok_iff.mpr ?_
  rw [List.forall₂_map_left_iff, List.forall₂_map_right_iff, List.forall₂_same]
  exact fun _ _ => rfl

/-- A table that holds a row for each of some records. -/
structure Holds (t : Table) (rs : Records) : Prop where
  table : t = ofRecords rs
  keyed : rs.Keyed
  dated : rs.All Record.Dated

lemma Holds.named {t : Table} {rs : Records} (h : t.Holds rs) :
    ∀ p ∈ rs.toList, p.2.name = p.1 ∧ p.2.Dated := by
  intro p hp
  have hget := Std.ExtTreeMap.mem_toList_iff_getElem?_eq_some.mp hp
  exact ⟨h.keyed _ _ hget, h.dated _ _ hget⟩

/-- How the table keeps records: as rows, so that only the tags of policies are left. -/
def representation : Representation Table where
  holds := Holds
  takes := Record.Dated
  back := Record.asWritten
  find {t rs} domain h := by
    obtain ⟨rfl, hk, hd⟩ := h
    have hrow : (ofRecords rs).rows[domain]? = rs[domain]?.map .ofRecord :=
      Std.ExtTreeMap.getElem?_map
    cases hr : rs[domain]? with
    | none =>
      rw [hr] at hrow
      rw [find_of_none hrow, Records.get_of_none hr]
      rfl
    | some r =>
      rw [hr] at hrow
      rw [find_of_some hrow, Records.get_of_some hr, Row.toRecord_eq_ok_iff, ← hk _ _ hr]
      exact Row.means_ofRecord (hd _ _ hr)
  withStatus {t rs} status h := by
    have hnamed := h.named
    obtain ⟨rfl, -, -⟩ := h
    change readRows ((ofRecords rs).rowsWithStatus status) = _
    rw [rowsWithStatus_ofRecords, readRows_map fun p hp => hnamed p (List.mem_of_mem_filter hp),
      Records.withStatus, Records.inOrder, List.filter_map]
    rfl
  namesWithStatus {t rs} status h := by
    have hnamed := h.named
    obtain ⟨rfl, -, -⟩ := h
    change ((ofRecords rs).rowsWithStatus status).mapM (fun (name, _) => Row.readName name) = _
    rw [rowsWithStatus_ofRecords, readNames_map, Records.withStatus, Records.inOrder,
      List.filter_map, List.map_map]
    refine congrArg Except.ok (List.map_congr_left fun p hp => ?_)
    exact (hnamed p (List.mem_of_mem_filter hp)).1.symm
  all {t rs} h := by
    have hnamed := h.named
    obtain ⟨rfl, -, -⟩ := h
    change readRows (ofRecords rs).inOrder = _
    rw [inOrder_ofRecords, readRows_map hnamed, Records.inOrder]
  write {t rs batch} h hb := by
    obtain ⟨rfl, hk, hd⟩ := h
    exact ⟨rfl, foldl_put_ofRecords rs batch, hk.putAll batch, hd.putAll hb⟩

end Table

/-- The policy of a record is the one that its tag stands for, as it is wherever the policy was
read from a text. -/
def Record.Spelled (r : Record) : Prop :=
  r.policy = .ofText r.policy.text

lemma Record.spelled_of_eq_ofText {r : Record} {tag : String} (h : r.policy = .ofText tag) :
    r.Spelled := by
  rw [Spelled, h, Policy.text_ofText]

lemma Record.Spelled.asWritten {r : Record} (h : r.Spelled) : r.asWritten = r := by
  rw [Record.asWritten, ← h]

namespace StoreCall

/-- The table and the store in memory, both empty at the start, called in the same way: as long
as dates lie in the years from 0 to 9999, every call succeeds on both, and both give the same
records in the same order, field by field, only that the table names a policy by its tag alone.
Where policies are written by their tags to begin with, the answers are the same. -/
theorem table_answers_as_memory (calls : List StoreCall)
    (hdated : ∀ call ∈ calls, ∀ r ∈ call.written, r.Dated) :
    answers ({} : Table) calls =
        (answers ({} : MemoryStore) calls).map (.mapRecords .asWritten) ∧
      ((∀ call ∈ calls, ∀ r ∈ call.written, r.Spelled) →
        answers ({} : Table) calls = answers ({} : MemoryStore) calls) ∧
      ∀ reply ∈ answers ({} : MemoryStore) calls, reply.Succeeded := by
  have htable : answers ({} : Table) calls = (replies ∅ calls).map (.mapRecords .asWritten) :=
    Table.representation.answers ⟨rfl, Records.keyed_empty, Records.all_empty _⟩ hdated
  have hmemory : answers ({} : MemoryStore) calls = replies ∅ calls := by
    have hempty : MemoryStore.representation.holds {} ∅ := ⟨⟨rfl, rfl, by simp⟩, rfl⟩
    rw [MemoryStore.representation.answers hempty fun _ _ _ _ => trivial]
    refine (List.map_congr_left fun reply _ => ?_).trans (List.map_id' _)
    exact StoreReply.mapRecords_eq_self fun _ _ => rfl
  rw [hmemory, htable]
  refine ⟨rfl, fun hspelled => ?_, succeeded_of_mem_replies⟩
  have hcontents := of_mem_replies (fun _ => rfl) (Records.all_empty Record.Spelled) hspelled
  refine (List.map_congr_left fun reply hreply => ?_).trans (List.map_id' _)
  exact StoreReply.mapRecords_eq_self fun r hr => (hcontents reply hreply r hr).asWritten

theorem date_and_policy_survive :
    let r : Record := ⟨"a.example", .pendingRemoval, "left", some ⟨1483326245, 123456789⟩, true,
      .other "custom-2"⟩
    let calls : List StoreCall := [.writeBatch [{ name := "a.example" }, r], .find "a.example"]
    answers ({} : Table) calls = answers ({} : MemoryStore) calls ∧
      answers ({} : MemoryStore) calls = [.written (.ok ()), .record (.ok r)] := by
  intro r calls
  have hwritten : ∀ P : Record → Prop, P { name := "a.example" } → P r →
      ∀ call ∈ calls, ∀ s ∈ call.written, P s := by
    intro P h h' call hcall s hs
    simp only [calls, List.mem_cons, List.not_mem_nil, or_false] at hcall
    rcases hcall with rfl | rfl
    · simp only [written, List.mem_cons, List.not_mem_nil, or_false] at hs
      rcases hs with rfl | rfl
      · exact h
      · exact h'
    · cases hs
  have hdated : r.Dated := by
    rintro t ⟨⟩
    exact ⟨by decide, by decide⟩
  refine ⟨?_, by dsimp only [calls, r]; rfl⟩
  have htag : r.policy = .ofText "custom-2" := rfl
  exact (table_answers_as_memory calls (hwritten _ (fun t h => by cases h) hdated)).2.1
    (hwritten _ rfl (Record.spelled_of_eq_ofText htag))

end StoreCall

end HstsPreload
