import HstsPreload.Pending.Fetch
import HstsPreload.Proofs.Characters
import HstsPreload.Proofs.Layout
import HstsPreload.Proofs.Routing
import HstsPreload.Proofs.Transparency

/-!
# The pending sets over HTTP

The pages of what is pending are written line by line and read as JSON. What is read is what the
store holds, whatever the names are and however many there are, so the changes that the tool
fetches are those of the registry.
-/

namespace HstsPreload

open HstsPreload.Json HstsPreload.Text Web

/-- A world with the store `s`, behind a cache that agrees with it. -/
structure World.Fronts {σ : Type} [RecordStore σ] [LawfulStore σ] (w : World σ) (s : σ) : Prop where
  store : w.store = s
  coherent : w.Coherent

namespace Registry

section Lines

variable {α : Type} {toJson : α → Value} {line : α → String}

lemma spellsItems_lines : ∀ {as : List α}, as ≠ [] →
    (∀ a ∈ as, Spells (toJson a) (line a).toList) →
    SpellsItems (as.map toJson) (String.join (linesBody (as.map line))).toList
  | [a], _, h => by
    have hone : SpellsItems [toJson a] ("    ".toList ++ ((line a).toList ++ ['\n'])) :=
      .one (by decide) (h a List.mem_cons_self) (by decide)
    simpa [linesBody, String.join] using hone
  | a :: b :: more, _, h => by
    have hmore := spellsItems_lines (List.cons_ne_nil b more) fun c hc =>
      h c (List.mem_cons_of_mem a hc)
    -- the line ends behind the comma, so its end stands before the next item
    have hnext : SpellsItems (toJson b :: more.map toJson)
        (['\n'] ++ (String.join (linesBody (line b :: more.map line))).toList) :=
      hmore.blank_append (by decide)
    have hcons : SpellsItems (toJson a :: toJson b :: more.map toJson)
        ("    ".toList ++ ((line a).toList ++ ([] ++ ',' ::
          (['\n'] ++ (String.join (linesBody (line b :: more.map line))).toList)))) :=
      .cons (by decide) (h a List.mem_cons_self) .nil hnext
    simpa [linesBody, String.join_cons] using hcons

lemma spellsItems_page {as : List α} (h : ∀ a ∈ as, Spells (toJson a) (line a).toList) :
    SpellsItems (as.map toJson) ('\n' :: (String.join (linesBody (as.map line))).toList) := by
  have hblank : Blank ['\n'] := by decide
  cases as with
  | nil => exact .nil hblank
  | cons a more => exact (spellsItems_lines (List.cons_ne_nil a more) h).blank_append hblank

theorem readAll_page {β : Type} {read : Reader β} {as : List α} (value : α → β)
    {toJson : β → Value}
    (reads : ∀ a ∈ as, ∀ text, Spells (toJson (value a)) text → Reads read text (value a))
    (h : ∀ a ∈ as, Spells (toJson (value a)) (line a).toList) :
    readAll (readList read) (linesResponse (as.map line)).body = .ok (as.map value) := by
  have hlist := reads_list value reads (.list (spellsItems_page h))
  have hall := readAll_of_reads hlist .nil (by decide : Blank ['\n'])
  rw [← hall]
  apply congrArg
  rw [← String.toList_inj]
  simp [linesResponse]

end Lines

lemma spells_pendingLine (r : Record) :
    Spells (Entry.addition r.name).toJson (pendingLine r).toList := by
  have hspaced := (Entry.addition r.name).spells_spacedObject (by decide : Blank [' '])
  have hmembers : (Entry.addition r.name).members = [("name", .string r.name),
    ("policy", .string "bulk-1-year"), ("mode", .string "force-https"),
    ("include_subdomains", .bool true)] := rfl
  have hline : (pendingLine r).toList = spacedObject [' '] (Entry.addition r.name).members := by
    simp only [pendingLine, quotedName, String.toList_append, String.toList_ofList, hmembers,
      spacedObject, spacedMembers, List.append_assoc, List.cons_append]
    rfl
  rw [hline]
  exact hspaced

lemma spells_quotedName (name : String) : Spells (.string name) (quotedName name).toList := by
  rw [quotedName, String.toList_ofList]
  exact .string name

section Responses

variable {σ : Type} [RecordStore σ] [LawfulStore σ] {reg : Registry} {req : Request} {s : σ}
  {w : World σ}

lemma run_cachedList (hs : Dependable s) (hw : w.Fronts s) (status : Status) :
    (w.run (cachedList status)).1 = .ok ((LawfulStore.records s).withStatus status) ∧
      (w.run (cachedList status)).2.Fronts s := by
  obtain ⟨rfl, hc⟩ := hw
  obtain ⟨hread, hstore, hcoherent⟩ :=
    World.paced_of_yields (yields_cachedList status) hs hc (w.run_paced _)
  exact ⟨hread, hstore, hcoherent⟩

lemma run_pending (hs : Dependable s) (hw : w.Fronts s) :
    (w.run pending).1 = .ok ((LawfulStore.records s).withStatus .pending) ∧
      (w.run pending).2.Fronts s := by
  obtain ⟨hread, hw'⟩ := run_cachedList hs hw .pending
  unfold pending
  rw [World.run_bind, hread]
  exact ⟨rfl, hw'⟩

lemma run_cachedNames (hs : Dependable s) (hw : w.Fronts s) (status : Status) (what : String) :
    (w.run (cachedNames status what)).1 =
        .ok (((LawfulStore.records s).withStatus status).map Record.name) ∧
      (w.run (cachedNames status what)).2.Fronts s := by
  obtain ⟨hread, hw'⟩ := run_cachedList hs hw status
  unfold cachedNames
  rw [World.run_bind, hread]
  exact ⟨rfl, hw'⟩

lemma respond_get {r : Route} (hget : req.method = "GET") (hpost : r.isPost = false)
    (hpath : Route.ofPath? reg.debugEndpoints req.path = some r) :
    reg.respond req = reg.respondTo req r := by
  simp only [respond, hpath, hpost, Bool.false_eq_true, if_false, hget, if_true]

/-- What a page is to tell: the response counts as a success, and its body is read as `items`. -/
structure Tells {α : Type} (read : Reader α) (items : List α) (page : Response) : Prop where
  status : page.status = 200
  body : readAll (readList read) page.body = .ok items

theorem page_pending (hs : Dependable s) (hw : w.Fronts s) (hget : req.method = "GET")
    (hpath : req.path = "/pending") :
    Tells Entry.read (((LawfulStore.records s).withStatus .pending).map fun r =>
        ⟨r.name, .bulk1Year, .forceHttps, true⟩) (w.run (reg.respond req)).1 ∧
      (w.run (reg.respond req)).2.Fronts s := by
  obtain ⟨hanswer, hw'⟩ := run_pending hs hw
  have hroute : reg.respond req = pending >>= fun answer => pure (listResponse pendingLine answer) :=
    respond_get hget rfl (by rw [hpath]; rfl)
  have hproper : Policy.bulk1Year.Proper := rfl
  rw [hroute, World.run_bind, hanswer]
  refine ⟨⟨rfl, ?_⟩, hw'⟩
  exact readAll_page (fun r : Record => Entry.addition r.name)
    (fun r _ _ => Entry.reads hproper) (fun r _ => spells_pendingLine r)

lemma tells_names {status : Status} {what : String} (hs : Dependable s) (hw : w.Fronts s)
    (hroute : reg.respond req =
      cachedNames status what >>= fun answer => pure (listResponse quotedName answer)) :
    Tells readString (((LawfulStore.records s).withStatus status).map Record.name)
        (w.run (reg.respond req)).1 ∧ (w.run (reg.respond req)).2.Fronts s := by
  obtain ⟨hanswer, hw'⟩ := run_cachedNames hs hw status what
  rw [hroute, World.run_bind, hanswer]
  refine ⟨⟨rfl, ?_⟩, hw'⟩
  generalize ((LawfulStore.records s).withStatus status).map Record.name = names
  have hpage : readAll (readList readString) (linesResponse (names.map quotedName)).body =
      .ok (names.map id) :=
    readAll_page id (fun name _ _ => spelled_string (reads_string name) _)
      fun name _ => spells_quotedName name
  rwa [List.map_id] at hpage

end Responses

end Registry

/-- What the tool is sent when it asks for a URL: the response, with its body in UTF-8. -/
def Web.Network.Sends (net : Network) (url : String) (page : Response) : Prop :=
  ∃ reply, Web.fetch net url = .ok reply ∧ reply.body = Utf8.encode page.body.toList

namespace PendingChanges

lemma fetchList_of_tells {α : Type} {read : Reader α} {items : List α} {page : Response}
    {net : Network} {base path : String} (what : String)
    (hsent : net.Sends (endpoint base path) page) (h : Registry.Tells read items page) :
    fetchList net base path what read = .ok items := by
  obtain ⟨reply, hfetch, hbody⟩ := hsent
  have htext : reply.text = page.body := by
    rw [Reply.text, hbody, Utf8.decodeLossy_encode, String.ofList_toList]
  unfold fetchList
  rw [hfetch]
  simp only [Except.mapError, htext, h.body, bind, Except.bind]

lemma fetch_of_tells {additions removals automated : List String} {entries : List Entry}
    {first second third : Response} {net : Network} {base : String}
    (hentries : entries.map Entry.name = additions)
    (h₁ : net.Sends (endpoint base "pending") first)
    (h₂ : net.Sends (endpoint base "pending-removal") second)
    (h₃ : net.Sends (endpoint base "pending-automated-removal") third)
    (t₁ : Registry.Tells Entry.read entries first) (t₂ : Registry.Tells readString removals second)
    (t₃ : Registry.Tells readString automated third) :
    fetch net base = .ok (.ofLists additions removals automated) := by
  unfold fetch
  simp only [fetchList_of_tells _ h₁ t₁, fetchList_of_tells _ h₂ t₂, fetchList_of_tells _ h₃ t₃,
    bind, Except.bind, hentries]
  rfl

end PendingChanges

/-- The three pages tell what is pending. Over any store whose reads succeed, behind any cache that
agrees with it, each page tells the names with its status, once each and in order, and those of
the pending domains as entries; and the changes that the tool fetches are those of the names in
the store, whenever each page is asked for. -/
theorem Registry.pages_tell_pending_sets {σ : Type} [RecordStore σ] [LawfulStore σ] (reg : Registry)
    {s : σ} (hs : Dependable s) :
    let listed := fun status => (LawfulStore.records s).withStatus status
    let names := fun status => (listed status).map Record.name
    (∀ status, Records.InNameOrder (listed status) ∧
      ∀ r, r ∈ listed status ↔ (LawfulStore.records s)[r.name]? = some r ∧ r.status = status) ∧
    (∀ (w : World σ) (req : Request), w.Fronts s → req.method = "GET" →
      let page := w.run (reg.respond req)
      (req.path = "/pending" → page.2.Fronts s ∧ Tells Entry.read
        ((listed .pending).map fun r => ⟨r.name, .bulk1Year, .forceHttps, true⟩) page.1) ∧
      (req.path = "/pending-removal" → page.2.Fronts s ∧
        Tells readString (names .pendingRemoval) page.1) ∧
      (req.path = "/pending-automated-removal" → page.2.Fronts s ∧
        Tells readString (names .pendingAutomatedRemoval) page.1)) ∧
    ∀ (net : Network) (base : String) (w w₁ w₂ : World σ) (req req₁ req₂ : Request),
      w.Fronts s → w₁.Fronts s → w₂.Fronts s →
      req.method = "GET" → req₁.method = "GET" → req₂.method = "GET" →
      req.path = "/pending" → req₁.path = "/pending-removal" →
      req₂.path = "/pending-automated-removal" →
      net.Sends (PendingChanges.endpoint base "pending") (w.run (reg.respond req)).1 →
      net.Sends (PendingChanges.endpoint base "pending-removal") (w₁.run (reg.respond req₁)).1 →
      net.Sends (PendingChanges.endpoint base "pending-automated-removal")
        (w₂.run (reg.respond req₂)).1 →
      PendingChanges.fetch net base = .ok (.ofLists (names .pending) (names .pendingRemoval)
        (names .pendingAutomatedRemoval)) := by
  intro listed names
  have hremoval : ∀ {w : World σ} {req : Request}, w.Fronts s → req.method = "GET" →
      req.path = "/pending-removal" →
      Tells readString (names .pendingRemoval) (w.run (reg.respond req)).1 ∧
        (w.run (reg.respond req)).2.Fronts s := by
    intro w req hw hget hpath
    exact tells_names hs hw (respond_get hget rfl (by rw [hpath]; rfl))
  have hautomated : ∀ {w : World σ} {req : Request}, w.Fronts s → req.method = "GET" →
      req.path = "/pending-automated-removal" →
      Tells readString (names .pendingAutomatedRemoval) (w.run (reg.respond req)).1 ∧
        (w.run (reg.respond req)).2.Fronts s := by
    intro w req hw hget hpath
    exact tells_names hs hw (respond_get hget rfl (by rw [hpath]; rfl))
  refine ⟨fun status => ⟨hs.keyed.inNameOrder_withStatus status, ?_⟩, ?_, ?_⟩
  · intro r
    exact hs.keyed.mem_withStatus status r
  · intro w req hw hget
    exact ⟨fun hpath => (page_pending hs hw hget hpath).symm,
      fun hpath => (hremoval hw hget hpath).symm, fun hpath => (hautomated hw hget hpath).symm⟩
  · intro net base w w₁ w₂ req req₁ req₂ hw hw₁ hw₂ hget hget₁ hget₂ hpath hpath₁ hpath₂ h h₁ h₂
    refine PendingChanges.fetch_of_tells ?_ h h₁ h₂ (page_pending hs hw hget hpath).1
      (hremoval hw₁ hget₁ hpath₁).1 (hautomated hw₂ hget₂ hpath₂).1
    rw [List.map_map]
    rfl

lemma Web.fetch_eq_ok {net : Network} {text : String} {url : Url} {reply : Web.Reply}
    (hparse : Url.parse text = .ok url) (hhost : url.hasHost = true) (hhttp : url.isHttp = true)
    (hnet : net url.withoutUserInfo.text = some reply) (hstatus : reply.status < 400) :
    fetch net text = .ok reply := by
  have hsend : send net text = .ok reply := by
    simp only [send, hparse, hhost, hhttp, hnet, Bool.not_true, Bool.false_eq_true, or_self,
      if_false]
  have hfine : ¬(400 ≤ reply.status ∧ reply.status < 600) := by omega
  unfold fetch
  rw [hsend]
  exact if_neg hfine

def Registry.served (reg : Registry) (w : World MemoryStore) (url : String) : Option Web.Reply :=
  let page := fun path => (w.run (reg.respond { method := "GET", path })).1
  let sent := fun path => some { body := Utf8.encode (page path).body.toList }
  if url = "http://[::1]/pending" then sent "/pending"
  else if url = "http://[::1]/pending-removal" then sent "/pending-removal"
  else if url = "http://[::1]/pending-automated-removal" then sent "/pending-automated-removal"
  else none

set_option maxRecDepth 2000 in
theorem Registry.odd_names_fetched :
    let w : World MemoryStore := .holding [{ name := "b\\\"\n.é", status := .pending },
      { name := "a.example", status := .pending }, { name := "c.example", status := .removed }]
    PendingChanges.fetch ((Registry.listing ⟨[]⟩).served w) "http://[::1]/" =
      .ok (.ofLists ["a.example", "b\\\"\n.é"] [] []) := by
  intro w
  have hw : w.Fronts w.store := ⟨rfl, Cache.Cold.coherent ⟨rfl, rfl⟩⟩
  have hs : Dependable w.store := MemoryStore.dependable_iff.mpr ⟨rfl, World.keyed_holding _⟩
  obtain ⟨-, -, hfetch⟩ := pages_tell_pending_sets (Registry.listing ⟨[]⟩) hs
  have hchanges := hfetch ((Registry.listing ⟨[]⟩).served w) "http://[::1]/" w w w
    { method := "GET", path := "/pending" } { method := "GET", path := "/pending-removal" }
    { method := "GET", path := "/pending-automated-removal" } hw hw hw rfl rfl rfl rfl rfl rfl
    ⟨_, Web.fetch_eq_ok rfl rfl rfl rfl (by decide), rfl⟩
    ⟨_, Web.fetch_eq_ok rfl rfl rfl rfl (by decide), rfl⟩
    ⟨_, Web.fetch_eq_ok rfl rfl rfl rfl (by decide), rfl⟩
  rw [hchanges]
  rfl

end HstsPreload
