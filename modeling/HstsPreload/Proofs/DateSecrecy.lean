import HstsPreload.Proofs.HiddenDates
import HstsPreload.Proofs.Stores

/-!
# Submission dates do not leak

Two registries whose records differ in their dates at most are asked the same, and no domain is
submitted. As long as everything that they read is there, they give the same responses, and their
records still differ in dates at most.
-/

namespace HstsPreload

open Program Web

/-- A store of which the dates can be taken away. Without them it holds the same records, reads
where it could be read, and takes the same batches. -/
class DatedStore (σ : Type) [RecordStore σ] where
  undated : σ → σ
  find {s : σ} {domain : String} {r : Record} : RecordStore.find s domain = .ok r →
    RecordStore.find (undated s) domain = .ok r.undated
  withStatus {s : σ} {status : Status} {rs : List Record} :
    RecordStore.withStatus s status = .ok rs →
    RecordStore.withStatus (undated s) status = .ok (rs.map .undated)
  all {s : σ} {rs : List Record} : RecordStore.all s = .ok rs →
    RecordStore.all (undated s) = .ok (rs.map .undated)
  write (s : σ) (batch : List Record) :
    (RecordStore.write (undated s) (batch.map .undated)).withinDeadline =
      ((RecordStore.write s batch).withinDeadline.1,
        undated (RecordStore.write s batch).withinDeadline.2)

namespace Records

def undated (rs : Records) : Records :=
  rs.map fun _ r => r.undated

lemma get_undated (rs : Records) (domain : String) :
    rs.undated.get domain = (rs.get domain).undated := by
  unfold get undated
  rw [Std.ExtTreeMap.getElem?_map]
  cases rs[domain]? <;> rfl

lemma inOrder_undated (rs : Records) : rs.undated.inOrder = rs.inOrder.map .undated := by
  unfold inOrder undated
  rw [Std.ExtTreeMap.toList_map, List.map_map, List.map_map]
  rfl

lemma withStatus_undated (rs : Records) (s : Status) :
    rs.undated.withStatus s = (rs.withStatus s).map .undated := by
  rw [withStatus, inOrder_undated, List.filter_map]
  rfl

lemma put_undated (rs : Records) (r : Record) : (rs.put r).undated = rs.undated.put r.undated := by
  refine Std.ExtTreeMap.ext_getElem? fun name => ?_
  unfold undated
  rw [getElem?_put, Std.ExtTreeMap.getElem?_map, Std.ExtTreeMap.getElem?_map, getElem?_put]
  change Option.map _ (if r.name = name then some r else rs[name]?) =
    if r.name = name then some r.undated else _
  split <;> rfl

lemma putAll_undated (rs : Records) (batch : List Record) :
    (rs.putAll batch).undated = rs.undated.putAll (batch.map .undated) := by
  induction batch generalizing rs with
  | nil => rfl
  | cons r batch ih => rw [List.map_cons, putAll_cons, putAll_cons, ih, put_undated]

end Records

namespace MemoryStore

def undated (s : MemoryStore) : MemoryStore :=
  { s with records := s.records.undated }

lemma answer_map {α β : Type} {s : MemoryStore} {a b : α} (f : α → β) (h : s.answer a = .ok b) :
    s.answer (f a) = .ok (f b) := by
  unfold answer at h ⊢
  split at h
  · cases h
  · next hs =>
    cases h
    exact if_neg hs

lemma writeBatch_undated (s : MemoryStore) (batch : List Record) :
    s.undated.writeBatch (batch.map .undated) =
      ((s.writeBatch batch).1, (s.writeBatch batch).2.undated) := by
  unfold writeBatch undated
  dsimp only
  split
  · rfl
  · rw [List.length_map, Records.putAll_undated]

instance : DatedStore MemoryStore where
  undated := undated
  find {s domain r} h := by
    change s.answer (s.records.undated.get domain) = _
    rw [Records.get_undated]
    exact answer_map _ h
  withStatus {s status rs} h := by
    change s.answer (s.records.undated.withStatus status) = _
    rw [Records.withStatus_undated]
    exact answer_map _ h
  all {s rs} h := by
    change s.answer s.records.undated.inOrder = _
    rw [Records.inOrder_undated]
    exact answer_map _ h
  write s batch := by
    have hwrite : s.undated.pastDelay.writeBatch (batch.map .undated) =
        ((s.pastDelay.writeBatch batch).1, (s.pastDelay.writeBatch batch).2.undated) :=
      writeBatch_undated s.pastDelay batch
    dsimp only [RecordStore.write, Attempt.withinDeadline]
    rw [hwrite]
    change (if 1000 * deadlineSeconds < s.delays.headD 0 then _ else _) = _
    split <;> rfl

end MemoryStore

namespace Row

def undated (row : Row) : Row :=
  { row with submissionDate := none }

lemma Means.undated {name : Column.TextCell} {row : Row} {r : Record} (h : row.Means name r) :
    row.undated.Means name r.undated :=
  ⟨h.name, h.status, h.message, .empty, h.includeSubDomains, h.policy⟩

end Row

namespace Table

def undated (t : Table) : Table where
  rows := t.rows.map fun _ row => row.undated
  nameless := t.nameless.map fun _ row => row.undated

lemma inOrder_undated (t : Table) : t.undated.inOrder = t.inOrder.map (Prod.map id .undated) := by
  unfold inOrder undated
  rw [Std.ExtTreeMap.toList_map, Std.ExtTreeMap.toList_map, List.map_append]
  simp only [List.map_map]
  rfl

lemma rowsWithStatus_undated (t : Table) (s : Status) :
    t.undated.rowsWithStatus s = (t.rowsWithStatus s).map (Prod.map id .undated) := by
  rw [rowsWithStatus, inOrder_undated, List.filter_map]
  rfl

lemma readRows_undated {rows : List (Column.TextCell × Row)} {rs : List Record}
    (h : readRows rows = .ok rs) :
    readRows (rows.map (Prod.map id .undated)) = .ok (rs.map .undated) := by
  refine mapM_eq_ok_iff.mpr ?_
  rw [List.forall₂_map_left_iff, List.forall₂_map_right_iff]
  exact (mapM_eq_ok_iff.mp h).imp fun p r hr =>
    readRow_eq_ok_iff.mpr (readRow_eq_ok_iff.mp hr).undated

lemma undated_put (t : Table) (r : Record) : (t.put r).undated = t.undated.put r.undated := by
  unfold undated put
  congr 1
  refine Std.ExtTreeMap.ext_getElem? fun name => ?_
  simp only [Std.ExtTreeMap.getElem?_insert, Std.ExtTreeMap.getElem?_map]
  change Option.map _ (if compare r.name name = .eq then _ else _) =
    if compare r.name name = .eq then _ else _
  split <;> rfl

lemma undated_foldl_put (t : Table) (batch : List Record) :
    (batch.foldl put t).undated = (batch.map .undated).foldl put t.undated := by
  induction batch generalizing t with
  | nil => rfl
  | cons r batch ih => rw [List.map_cons, List.foldl_cons, List.foldl_cons, ih, undated_put]

instance : DatedStore Table where
  undated := undated
  find {t domain r} h := by
    have hundated : t.undated.rows[domain]? = t.rows[domain]?.map Row.undated :=
      Std.ExtTreeMap.getElem?_map
    cases hrow : t.rows[domain]? with
    | none =>
      rw [hrow] at hundated
      rw [find_of_none hrow] at h
      cases h
      exact find_of_none hundated
    | some row =>
      rw [hrow] at hundated
      rw [find_of_some hrow, Row.toRecord_eq_ok_iff] at h
      rw [find_of_some hundated, Row.toRecord_eq_ok_iff]
      exact h.undated
  withStatus {t status rs} h := by
    change readRows (t.undated.rowsWithStatus status) = _
    rw [rowsWithStatus_undated]
    exact readRows_undated h
  all {t rs} h := by
    change readRows t.undated.inOrder = _
    rw [inOrder_undated]
    exact readRows_undated h
  write t batch := by
    change (Except.ok (), (batch.map Record.undated).foldl put t.undated) =
      (Except.ok (), (batch.foldl put t).undated)
    rw [undated_foldl_put]

end Table

namespace Kept

def map {α β : Type} (f : α → β) (k : Kept α) : Kept β :=
  ⟨f k.value, k.since⟩

lemma fresh?_map {α β : Type} (f : α → β) (k : Kept α) (ttl time : Nat) :
    (k.map f).fresh? ttl time = (k.fresh? ttl time).map f := by
  unfold fresh?
  change (if time - k.since < ttl then _ else _) = _
  split <;> rfl

end Kept

namespace Cache

def undated (c : Cache) : Cache :=
  { c with
    byStatus := fun s => (c.byStatus s).map (Kept.map (List.map .undated))
    byDomain := c.byDomain.map fun _ k => k.map .undated }

lemma find?_undated (c : Cache) (time : Nat) (domain : String) :
    c.undated.find? time domain = (c.find? time domain).map .undated := by
  change (if c.isEnabled = true then
    ((c.byDomain.map fun _ k => k.map Record.undated)[domain]?).bind fun k => k.fresh? c.ttl time
    else none) = _
  unfold find?
  rw [Std.ExtTreeMap.getElem?_map]
  split
  · cases c.byDomain[domain]? with
    | none => rfl
    | some k => exact Kept.fresh?_map _ k c.ttl time
  · rfl

lemma withStatus?_undated (c : Cache) (time : Nat) (s : Status) :
    c.undated.withStatus? time s = (c.withStatus? time s).map (List.map .undated) := by
  change (if c.isEnabled = true then
    ((c.byStatus s).map (Kept.map (List.map Record.undated))).bind fun k => k.fresh? c.ttl time
    else none) = _
  unfold withStatus?
  split
  · cases c.byStatus s with
    | none => rfl
    | some k => exact Kept.fresh?_map _ k c.ttl time
  · rfl

lemma keep_undated (c : Cache) (time : Nat) (generation : UInt64) (r : Record) :
    c.undated.keep time generation r.undated = (c.keep time generation r).undated := by
  change (if c.isEnabled = true ∧ c.generation = generation then _ else _) = _
  unfold keep
  split
  · unfold undated
    congr 1
    refine Std.ExtTreeMap.ext_getElem? fun name => ?_
    simp only [Std.ExtTreeMap.getElem?_insert, Std.ExtTreeMap.getElem?_map,
      Std.ExtTreeMap.getElem?_filter']
    change (if compare r.name name = .eq then _ else _) = _
    split
    · rfl
    · rw [Option.filter_map]
      congr 2
      funext k
      rw [Function.comp_apply, Kept.fresh?_map, Option.isSome_map]
  · rfl

lemma keepList_undated (c : Cache) (time : Nat) (generation : UInt64) (s : Status)
    (rs : List Record) : c.undated.keepList time generation s (rs.map .undated) =
      (c.keepList time generation s rs).undated := by
  change (if c.isEnabled = true ∧ c.generation = generation then _ else _) = _
  unfold keepList
  split
  · unfold undated
    congr 1
    funext t
    dsimp only
    split <;> rfl
  · rfl

lemma invalidate_undated (c : Cache) : c.undated.invalidate = c.invalidate.undated := by
  rfl

end Cache

/-- What an access was to read is there. -/
def Access.Answered : (a : Access) → a.Answer → Prop
  | .load _, answer => ∃ r, answer = .ok r
  | .loadList _, answer | .loadAll, answer => ∃ rs, answer = .ok rs
  | _, _ => True

/-- A request with what the registry consults when it is made, and how many milliseconds have passed
since the one before. -/
structure Exchange where
  registry : Registry
  request : Request
  pause : Nat := 0

namespace World

variable {σ α β : Type} [RecordStore σ] {w w' : World σ}

/-- Everything that a program reads as it runs is there. -/
def ReadsSucceed (w : World σ) : Program α → Prop
  | .done _ => True
  | .step a next => a.Answered (w.answer a).1 ∧ (w.answer a).2.ReadsSucceed (next (w.answer a).1)

/-- The response to each request, with the store after it. -/
def serve (w : World σ) : List Exchange → List (Response × σ)
  | [] => []
  | e :: more =>
    let (response, w) := (w.later e.pause).run (e.registry.respond e.request)
    (response, w.store) :: w.serve more

/-- Everything that is read for some requests is there. -/
def ReadsServed (w : World σ) : List Exchange → Prop
  | [] => True
  | e :: more => (w.later e.pause).ReadsSucceed (e.registry.respond e.request) ∧
    ((w.later e.pause).run (e.registry.respond e.request)).2.ReadsServed more

variable [DatedStore σ]

def undated (w : World σ) : World σ where
  store := DatedStore.undated w.store
  cache := w.cache.undated
  time := w.time

lemma undated_eq_iff : w.undated = w'.undated ↔
    DatedStore.undated w.store = DatedStore.undated w'.store ∧
      w.cache.undated = w'.cache.undated ∧ w.time = w'.time := by
  rw [undated, undated, mk.injEq]

lemma answer_abreast {a a' : Access} {told : a.Answer → a'.Answer → Prop} (ha : a.Abreast a' told)
    (h : w.undated = w'.undated) (hread : a.Answered (w.answer a).1)
    (hread' : a'.Answered (w'.answer a').1) :
    told (w.answer a).1 (w'.answer a').1 ∧ (w.answer a).2.undated = (w'.answer a').2.undated := by
  obtain ⟨hstore, hcache, htime⟩ := undated_eq_iff.mp h
  cases ha with
  | cached domain =>
    refine ⟨?_, h⟩
    change (w.cache.find? w.time domain).map _ = (w'.cache.find? w'.time domain).map _
    rw [← Cache.find?_undated, ← Cache.find?_undated, hcache, htime]
  | cachedList s =>
    refine ⟨?_, h⟩
    change (w.cache.withStatus? w.time s).map _ = (w'.cache.withStatus? w'.time s).map _
    rw [← Cache.withStatus?_undated, ← Cache.withStatus?_undated, hcache, htime]
  | generation =>
    refine ⟨?_, h⟩
    change w.cache.undated.generation = w'.cache.undated.generation
    rw [hcache]
  | load domain =>
    obtain ⟨r, hr⟩ := hread
    obtain ⟨r', hr'⟩ := hread'
    have hsame := DatedStore.find hr
    rw [hstore, DatedStore.find hr'] at hsame
    exact ⟨⟨r, r', hr, hr', (Except.ok.inj hsame).symm⟩, h⟩
  | loadList s =>
    obtain ⟨rs, hrs⟩ := hread
    obtain ⟨rs', hrs'⟩ := hread'
    have hsame := DatedStore.withStatus hrs
    rw [hstore, DatedStore.withStatus hrs'] at hsame
    exact ⟨⟨rs, rs', hrs, hrs', (Except.ok.inj hsame).symm⟩, h⟩
  | loadAll =>
    obtain ⟨rs, hrs⟩ := hread
    obtain ⟨rs', hrs'⟩ := hread'
    have hsame := DatedStore.all hrs
    rw [hstore, DatedStore.all hrs'] at hsame
    exact ⟨⟨rs, rs', hrs, hrs', (Except.ok.inj hsame).symm⟩, h⟩
  | @keep generation r r' hr =>
    refine ⟨trivial, undated_eq_iff.mpr ⟨hstore, ?_, htime⟩⟩
    change (w.cache.keep w.time generation r).undated =
      (w'.cache.keep w'.time generation r').undated
    rw [← Cache.keep_undated, ← Cache.keep_undated, hr, hcache, htime]
  | @keepList generation s rs rs' hrs =>
    refine ⟨trivial, undated_eq_iff.mpr ⟨hstore, ?_, htime⟩⟩
    change (w.cache.keepList w.time generation s rs).undated =
      (w'.cache.keepList w'.time generation s rs').undated
    rw [← Cache.keepList_undated, ← Cache.keepList_undated, hrs, hcache, htime]
  | @commit batch batch' hbatch =>
    have hwrite := DatedStore.write w.store batch
    rw [hstore, hbatch, DatedStore.write] at hwrite
    obtain ⟨houtcome, hafter⟩ := Prod.mk.inj hwrite
    exact ⟨houtcome.symm, undated_eq_iff.mpr ⟨hafter.symm, hcache, htime⟩⟩
  | invalidate =>
    refine ⟨trivial, undated_eq_iff.mpr ⟨hstore, ?_, htime⟩⟩
    change w.cache.invalidate.undated = w'.cache.invalidate.undated
    rw [← Cache.invalidate_undated, ← Cache.invalidate_undated, hcache]

/-- Programs that stay abreast, run over records that differ in dates only, answer alike and leave
records that differ in dates only. -/
theorem run_abreast {R : α → β → Prop} {p : Program α} {p' : Program β} (hp : p.Abreast R p')
    (h : w.undated = w'.undated) (hread : w.ReadsSucceed p) (hread' : w'.ReadsSucceed p') :
    R (w.run p).1 (w'.run p').1 ∧ (w.run p).2.undated = (w'.run p').2.undated := by
  induction hp generalizing w w' with
  | done hab => exact ⟨hab, h⟩
  | step ha _ ih =>
    obtain ⟨htold, hafter⟩ := answer_abreast ha h hread.1 hread'.1
    exact ih _ _ htold hafter hread.2 hread'.2

lemma undated_later (h : w.undated = w'.undated) (pause : Nat) :
    (w.later pause).undated = (w'.later pause).undated :=
  congrArg (fun w => later w pause) h

end World

namespace MemoryStore

variable {w : World MemoryStore}

lemma down_answer (w : World MemoryStore) (a : Access) :
    (w.answer a).2.store.down = w.store.down := by
  cases a with
  | commit batch =>
    change (RecordStore.write w.store batch).withinDeadline.2.down = w.store.down
    dsimp only [RecordStore.write, Attempt.withinDeadline, writeBatch, pastDelay]
    split
    · rfl
    · split <;> rfl
  | _ => rfl

lemma readsSucceed {α : Type} (h : w.store.down = false) (p : Program α) :
    w.ReadsSucceed p ∧ (w.run p).2.store.down = false := by
  induction p generalizing w with
  | done a => exact ⟨trivial, h⟩
  | step a next ih =>
    obtain ⟨hreads, hafter⟩ := ih (w.answer a).1 ((down_answer w a).trans h)
    refine ⟨⟨?_, hreads⟩, hafter⟩
    have hanswer : ∀ {β : Type} (b : β), w.store.answer b = .ok b := fun b => by
      rw [MemoryStore.answer, h]
      rfl
    cases a with
    | load domain | loadList s | loadAll => exact ⟨_, hanswer _⟩
    | _ => trivial

lemma readsServed (h : w.store.down = false) (exchanges : List Exchange) :
    w.ReadsServed exchanges := by
  induction exchanges generalizing w with
  | nil => trivial
  | cons e more ih =>
    obtain ⟨hreads, hafter⟩ := readsSucceed (w := w.later e.pause) h
      (e.registry.respond e.request)
    exact ⟨hreads, ih hafter⟩

end MemoryStore

/-- Two stores whose records differ in their dates at most, each with a cache in front of it, are
asked the same. Unless a domain is submitted, and as long as everything that is read is there, each
request is answered alike, and what is stored after it differs in dates at most. -/
theorem Registry.dates_do_not_leak {σ : Type} [RecordStore σ] [DatedStore σ] {w w' : World σ}
    (h : w.undated = w'.undated) {exchanges : List Exchange}
    (hb : ∀ e ∈ exchanges, e.registry.Batched)
    (hother : ∀ e ∈ exchanges, ¬Registry.IsSubmission e.request)
    (hread : w.ReadsServed exchanges) (hread' : w'.ReadsServed exchanges) :
    List.Forall₂ (fun told told' => told.1 = told'.1 ∧
        DatedStore.undated told.2 = DatedStore.undated told'.2)
      (w.serve exchanges) (w'.serve exchanges) := by
  induction exchanges generalizing w w' with
  | nil => exact .nil
  | cons e more ih =>
    obtain ⟨hbatched, hb⟩ := List.forall_mem_cons.mp hb
    obtain ⟨hfirst, hother⟩ := List.forall_mem_cons.mp hother
    obtain ⟨hresponse, hafter⟩ := World.run_abreast (Registry.abreast_respond hbatched hfirst)
      (World.undated_later h e.pause) hread.1 hread'.1
    exact .cons ⟨hresponse, congrArg World.store hafter⟩
      (ih hafter hb hother hread.2 hread'.2)

namespace Dated

def reg : Registry := .listing ⟨[]⟩

def update : Exchange := ⟨reg, { method := "GET", path := "/update" }, 5⟩

/-- A question, a removal request and an update, one after another. -/
def exchanges : List Exchange :=
  [⟨reg, { method := "GET", path := "/status", query := "domain=[::1]".toList }, 0⟩,
    ⟨reg, { method := "POST", path := "/remove", query := "domain=[::1]".toList }, 5⟩, update]

/-- A store with a pending domain and one that is leaving. -/
def world (t : Instant) : World MemoryStore :=
  let records : Records := Records.putAll ∅
    [{ name := "[::1]", status := .pending, submissionDate := some t },
      { name := "[::2]", status := .pendingRemoval, submissionDate := some t }]
  { store := { records }, cache := { ttl := 1000 } }

/-- The same in a table. -/
def tableWorld (date : String) : World Table :=
  let rows := (∅ : Std.ExtTreeMap String Row).insertMany
    [("[::1]", ⟨"pending", "", some (.text date), .integer 0, ""⟩),
      ("[::2]", ⟨"pending-removal", "", some (.text date), .integer 0, ""⟩)]
  { store := { rows }, cache := { ttl := 1000 } }

lemma undated_world (t t' : Instant) : (world t).undated = (world t').undated := by
  refine World.undated_eq_iff.mpr ⟨?_, rfl, rfl⟩
  refine congrArg (fun records => ({ records } : MemoryStore)) ?_
  change (Records.putAll _ _).undated = (Records.putAll _ _).undated
  rw [Records.putAll_undated, Records.putAll_undated]
  rfl

lemma undated_tableWorld :
    (tableWorld "1970-01-01T00:00:00Z").undated = (tableWorld "1970-01-02T00:00:00Z").undated := by
  refine World.undated_eq_iff.mpr ⟨?_, rfl, rfl⟩
  rfl

lemma readsServed_tableWorld : (tableWorld "1970-01-01T00:00:00Z").ReadsServed [update] ∧
    (tableWorld "1970-01-02T00:00:00Z").ReadsServed [update] := by
  refine ⟨⟨?_, trivial⟩, ?_, trivial⟩
  · exact ⟨⟨_, rfl⟩, ⟨_, rfl⟩, ⟨_, rfl⟩, trivial, trivial, trivial⟩
  · exact ⟨⟨_, rfl⟩, ⟨_, rfl⟩, ⟨_, rfl⟩, trivial, trivial, trivial⟩

/-- In either store the dates stay hidden, until a domain is submitted again. -/
theorem told_on_submission_only :
    let w := world ⟨0, 0⟩
    let w' := world ⟨86400, 0⟩
    let t := tableWorld "1970-01-01T00:00:00Z"
    let t' := tableWorld "1970-01-02T00:00:00Z"
    List.Forall₂ (fun told told' => told.1 = told'.1 ∧
        DatedStore.undated told.2 = DatedStore.undated told'.2)
      (w.serve exchanges) (w'.serve exchanges) ∧
    List.Forall₂ (fun told told' => told.1 = told'.1 ∧
        DatedStore.undated told.2 = DatedStore.undated told'.2)
      (t.serve [update]) (t'.serve [update]) ∧
    (w.run (reg.submit "[::1]")).1 ≠ (w'.run (reg.submit "[::1]")).1 := by
  intro w w' t t'
  refine ⟨?_, ?_, by decide +kernel⟩
  · refine Registry.dates_do_not_leak (undated_world _ _) ?_ ?_
      (MemoryStore.readsServed rfl _) (MemoryStore.readsServed rfl _)
    · simp [exchanges, update, Registry.Batched, reg, Registry.listing]
    · simp [exchanges, update, Registry.IsSubmission]
  · refine Registry.dates_do_not_leak undated_tableWorld ?_ ?_
      readsServed_tableWorld.1 readsServed_tableWorld.2
    · simp [update, Registry.Batched, reg, Registry.listing]
    · simp [update, Registry.IsSubmission]

end Dated

end HstsPreload
