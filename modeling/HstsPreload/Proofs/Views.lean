import HstsPreload.Proofs.Decoding
import HstsPreload.Proofs.Pages
import HstsPreload.StatusView

/-!
# Views are decoded as they were encoded

A record is told in JSON without its submission date, and a view puts what it adds among the members
of its record. Empty parts are left out and come back empty, so both are read back as they were but
for the date, in either written form and on the page that lists every record.
-/

namespace HstsPreload

open HstsPreload.Json Web

namespace Json

/-! ### Values that are kept for later -/

lemma reads_any_string (depth : Nat) (s : String) :
    Reads (readAny depth) (stringText s) (.string s) where
  token := ⟨'"', _, rfl, isSpace_quote, by decide⟩
  result sp rest hsp := by
    rw [stringText_append, readAny, readAnyFrom, skipSpace_token hsp isSpace_quote]
    simp [readStringTail_text, bind, Except.bind, pure, Except.pure]

lemma reads_any_bool (depth : Nat) (b : Bool) :
    Reads (readAny depth) (boolText b) (.bool b) where
  token := (reads_bool b).token
  result sp rest hsp := by
    rw [readAny, readAnyFrom, skipSpace_append hsp]
    cases b <;> rfl

lemma reads_optional_string (s : String) :
    Reads readOptionalString (stringText s) (some s) where
  token := ⟨'"', _, rfl, isSpace_quote, by decide⟩
  result sp rest hsp := by
    have hread := (reads_string s).result [] rest .nil
    rw [stringText_append] at hread ⊢
    rw [readOptionalString, skipSpace_token hsp isSpace_quote]
    rw [List.nil_append] at hread
    simp [hread, bind, Except.bind, pure, Except.pure]

end Json

theorem Status.reads (s : Status) : Reads Status.read (stringText s.text) s :=
  reads_word Status.words (by cases s <;> rfl)

theorem Policy.reads_text (p : Policy) : Reads Policy.read (stringText p.text) (.ofText p.text) :=
  (reads_string p.text).map Policy.ofText

namespace Record

/-- What JSON tells of a record: everything but its submission date, with the policy that its tag
stands for. -/
def told (r : Record) : Record :=
  { r with submissionDate := none, policy := .ofText r.policy.text }

lemma told_of_ofText {r : Record} {tag : String} (h : r.policy = .ofText tag) :
    r.told = { r with submissionDate := none } := by
  simp only [told, h, Policy.text_ofText]

/-- What a record leaves in a draft: what is empty is not written. -/
def draft (r : Record) : Draft where
  name := some r.name
  status := some r.status
  message := if r.message = "" then none else some r.message
  includeSubDomains := some r.includeSubDomains
  policy := if r.policy = .unspecified then none else some (.ofText r.policy.text)

lemma ofDraft_draft (r : Record) : ofDraft r.draft = r.told := by
  simp only [ofDraft, draft, told, Option.getD_some, Record.mk.injEq, true_and]
  constructor
  · split_ifs with hm
    · exact hm.symm
    · rfl
  · split_ifs with hp
    · rw [hp]
      rfl
    · rfl

lemma fills_name (name : String) :
    Fills Record.kind {} [("name", .string name)] { name := some name } := by
  have find : Record.kind.find? "name" = some (.field "name" true Draft.name
      (fun d a => { d with name := some a }) readString) := rfl
  exact .field find rfl (spelled_string (reads_string name))

lemma fills_status (s : Status) {d : Draft} (fresh : d.status = none) :
    Fills Record.kind d [("status", s.toJson)] { d with status := some s } := by
  have find : Record.kind.find? "status" = some (.field "status" true Draft.status
      (fun d a => { d with status := some a }) Status.read) := rfl
  exact .field find fresh (spelled_string s.reads)

lemma fills_message (message : String) {d : Draft} (fresh : d.message = none) :
    Fills Record.kind d (messageMember message)
      { d with message := if message = "" then none else some message } := by
  have find : Record.kind.find? "message" = some (.field "message" false Draft.message
      (fun d a => { d with message := some a }) readString) := rfl
  unfold messageMember
  split_ifs
  · rw [← fresh]
    exact .nil
  · exact .field find fresh (spelled_string (reads_string message))

lemma fills_includeSubDomains (b : Bool) {d : Draft} (fresh : d.includeSubDomains = none) :
    Fills Record.kind d [("includeSubDomains", .bool b)]
      { d with includeSubDomains := some b } := by
  have find : Record.kind.find? "includeSubDomains" = some (.field "includeSubDomains" false
      Draft.includeSubDomains (fun d a => { d with includeSubDomains := some a }) readBool) := rfl
  refine .field find fresh fun text h => ?_
  cases h
  exact reads_bool b

lemma fills_policy (p : Policy) {d : Draft} (fresh : d.policy = none) :
    Fills Record.kind d p.member
      { d with policy := if p = .unspecified then none else some (.ofText p.text) } := by
  have find : Record.kind.find? "policy" = some (.field "policy" false Draft.policy
      (fun d a => { d with policy := some a }) Policy.read) := rfl
  unfold Policy.member
  split_ifs
  · rw [← fresh]
    exact .nil
  · exact .field find fresh (spelled_string p.reads_text)

theorem reads (r : Record) {text : List Char} (spelled : Spells r.toJson text) :
    Reads Record.read text r.told := by
  have hname := fills_name r.name
  have hstatus := hname.append (fills_status r.status rfl)
  have hmessage := hstatus.append (fills_message r.message rfl)
  have hflag := hmessage.append (fills_includeSubDomains r.includeSubDomains rfl)
  have hpolicy := hflag.append (fills_policy r.policy rfl)
  have hread := (reads_record (d := r.draft) hpolicy rfl spelled).map ofDraft
  rw [ofDraft_draft] at hread
  exact hread

end Record

namespace StatusView

/-! ### The members of a view -/

def readMember (d : Draft) (key : String) : Reader Draft :=
  if key = "bulk" then fun cs => do
    let (b, rest) ← readBool cs
    return ({ d with bulk := some b }, rest)
  else if key = "preloadedDomain" then fun cs => do
    let (s, rest) ← readOptionalString cs
    return ({ d with preloadedDomain := some s }, rest)
  else fun cs => do
    let (v, rest) ← readAny (depthLimit - 1) cs
    return ({ d with others := (key, v) :: d.others }, rest)

/-- Whether a draft has room for a member: those of the record are only looked at later. -/
def Fresh (d : Draft) (key : String) : Prop :=
  (key = "bulk" → d.bulk = none) ∧ (key = "preloadedDomain" → d.preloadedDomain = none)

lemma readMembers_member {d : Draft} {key : String} (fresh : Fresh d key) (fuel : Nat)
    (first : Bool) {sp before between : List Char} (hsp : Blank sp) (hb : Blank before)
    (hc : Blank between) (cs : List Char) :
    readMembers (fuel + 1) first d
        (sp ++ (comma first ++ (before ++ (stringText key ++ (between ++ ':' :: cs))))) =
      readMember d key cs >>= fun (d', rest) => readMembers fuel false d' rest := by
  rw [readMembers, stringText_append, nextKey_member first hsp hb]
  simp only [readStringTail_text, readColon_colon hc, bind, Except.bind, readMember]
  split_ifs with hbulk hold hcovering hold
  · rw [fresh.1 hbulk] at hold
    cases hold
  · dsimp only
    cases readBool cs <;> rfl
  · rw [fresh.2 hcovering] at hold
    cases hold
  · dsimp only
    cases readOptionalString cs <;> rfl
  · dsimp only
    cases readAny (depthLimit - 1) cs <;> rfl

lemma takes {d d' : Draft} {key : String} {v : Value} (fresh : Fresh d key)
    (reads : ∀ text, Spells v text → Reads (readMember d key) text d') :
    Takes readMembers d key v d' := by
  intro fuel first sp before between inner text hsp hb hc hi h rest
  rw [readMembers_member fresh fuel first hsp hb hc, (reads text h).result inner rest hi]
  rfl

lemma readMembers_end {d : Draft} {view : StatusView} (h : ofDraft d = .ok view) (fuel : Nat)
    (first : Bool) {sp : List Char} (hsp : Blank sp) (rest : List Char) :
    readMembers (fuel + 1) first d (sp ++ '\x7d' :: rest) = .ok (view, rest) := by
  rw [readMembers, nextKey_end _ hsp]
  simp only [bind, Except.bind, pastObjectEnd_brace, h]
  rfl

/-- A string or a truth value, as the members of a record are. -/
inductive Plain : Value → Prop
  | string (s : String) : Plain (.string s)
  | bool (b : Bool) : Plain (.bool b)

lemma Plain.reads {v : Value} (h : Plain v) (depth : Nat) {text : List Char}
    (spelled : Spells v text) : Reads (readAny depth) text v := by
  cases h with
  | string s => exact spelled_string (reads_any_string depth s) text spelled
  | bool b =>
    cases spelled
    exact reads_any_bool depth b

lemma takes_bulk (b : Bool) {d : Draft} (fresh : d.bulk = none) :
    Takes readMembers d "bulk" (.bool b) { d with bulk := some b } := by
  have hne : "bulk" ≠ "preloadedDomain" := by decide
  refine takes ⟨fun _ => fresh, fun he => absurd he hne⟩ fun text hs => ?_
  cases hs
  exact (reads_bool b).map fun b => { d with bulk := some b }

lemma gathers_preloadedDomain (covering : Option String) {d : Draft}
    (fresh : d.preloadedDomain = none) :
    Gathers readMembers d
      (match covering with
        | none => []
        | some s => [("preloadedDomain", .string s)])
      { d with preloadedDomain := covering.map some } := by
  cases covering with
  | none =>
    rw [Option.map_none, ← fresh]
    exact .nil
  | some s =>
    have hne : "preloadedDomain" ≠ "bulk" := by decide
    refine .cons (takes ⟨fun he => absurd he hne, fun _ => fresh⟩ fun text hs => ?_) .nil
    exact spelled_string ((reads_optional_string s).map fun s => { d with preloadedDomain := some s })
      text hs

lemma gathers_others {members : List (String × Value)}
    (h : ∀ m ∈ members, m.1 ≠ "bulk" ∧ m.1 ≠ "preloadedDomain" ∧ Plain m.2) (d : Draft) :
    Gathers readMembers d members { d with others := members.reverse ++ d.others } := by
  induction members generalizing d with
  | nil => exact .nil
  | cons m more ih =>
    obtain ⟨⟨hbulk, hcovering, hplain⟩, hmore⟩ := List.forall_mem_cons.mp h
    have hreader : readMember d m.1 = fun cs => do
        let (v, rest) ← readAny (depthLimit - 1) cs
        return ({ d with others := (m.1, v) :: d.others }, rest) := by
      rw [readMember, if_neg hbulk, if_neg hcovering]
    have hfirst : Takes readMembers d m.1 m.2 { d with others := m :: d.others } := by
      refine takes ⟨fun he => absurd he hbulk, fun he => absurd he hcovering⟩ fun text hs => ?_
      rw [hreader]
      exact (hplain.reads _ hs).map fun v => { d with others := (m.1, v) :: d.others }
    have hrest := ih hmore { d with others := m :: d.others }
    rw [List.reverse_cons, List.append_assoc]
    exact .cons hfirst hrest

lemma recordMembers_plain (r : Record) :
    ∀ m ∈ r.jsonMembers, m.1 ≠ "bulk" ∧ m.1 ≠ "preloadedDomain" ∧ Plain m.2 := by
  unfold Record.jsonMembers Record.messageMember Policy.member Status.toJson
  split_ifs <;> simp [Plain.string, Plain.bool]

lemma recordOf_jsonMembers (r : Record) : recordOf r.jsonMembers = .ok r.told := by
  have hstatus : r.status.toJson.asWord Status.words = .ok r.status := by
    cases r.status <;> rfl
  rw [← Record.ofDraft_draft]
  unfold recordOf Record.jsonMembers Record.messageMember Policy.member Record.draft
  split_ifs <;>
    simp [recordMember, Value.asString, Value.asBool, hstatus, bind, Except.bind, pure, Except.pure]

theorem reads (v : StatusView) {text : List Char} (spelled : Spells v.toJson text) :
    Reads StatusView.read text { v with record := v.record.told } := by
  have hrecord := gathers_others (recordMembers_plain v.record) {}
  rw [List.append_nil] at hrecord
  have hbulk := hrecord.append (.cons (takes_bulk v.bulk rfl) .nil)
  have hcovering := hbulk.append (gathers_preloadedDomain v.preloadedDomain rfl)
  refine reads_object (fun sp rest hsp => ?_) hcovering
    (fun fuel first sp rest hsp => readMembers_end ?_ fuel first hsp rest) spelled
  · rw [StatusView.read, skipSpace_token hsp (by decide)]
    rfl
  · simp only [ofDraft, List.reverse_reverse, recordOf_jsonMembers, bind, Except.bind, pure,
      Except.pure]
    cases v.preloadedDomain <;> rfl

end StatusView

namespace Json

lemma readAll_render {α : Type} {read : Reader α} {v : Value} {a : α}
    (reads : ∀ text, Spells v text → Reads read text a) :
    readAll read v.render = .ok a ∧ readAll read v.renderIndented = .ok a := by
  have hcompact := readAll_of_reads (reads _ (spells_compact v)) .nil .nil
  have hindented := readAll_of_reads (reads _ (spells_indented 0 v)) .nil .nil
  rw [List.nil_append, List.append_nil] at hcompact hindented
  exact ⟨hcompact, hindented⟩

end Json

namespace Registry

lemma tells_allStates (rs : List Record) :
    Tells Record.read (rs.map Record.told) (jsonResponse (.list (rs.map Record.toJson))) where
  status := rfl
  body := by
    have hlist := reads_list Record.told (fun r _ _ => Record.reads r)
      (spells_indented 0 (.list (rs.map Record.toJson)))
    have hall := readAll_of_reads hlist .nil (by decide : Blank ['\n'])
    rw [← hall]
    apply congrArg
    rw [← String.toList_inj]
    simp [jsonResponse, Value.renderIndented]

lemma tells_respond_allStates {σ : Type} [RecordStore σ] {w : World σ} {reg : Registry}
    {req : Request} {rs : List Record} (hdebug : reg.debugEndpoints = true)
    (hget : req.method = "GET") (hpath : req.path = "/debug/all-states")
    (hrun : (w.run allStates).1 = .ok rs) :
    Tells Record.read (rs.map Record.told) (w.run (reg.respond req)).1 := by
  have hroute : Route.ofPath? reg.debugEndpoints req.path = some .allStates := by
    rw [hdebug, hpath]
    rfl
  rw [respond_get hget rfl hroute, respondTo, respondAllStates, World.run_bind, hrun]
  exact tells_allStates rs

end Registry

/-- Records and views are read back as they were told, whatever their strings are: from either written
form of a record, from the indented form of a view, and from the page of all records. Only the
submission date is lost, and a policy that no tag stands for. -/
theorem views_decode_to_what_they_encode :
    (∀ r : Record, Record.parse r.toJson.render = .ok r.told ∧
      Record.parse r.toJson.renderIndented = .ok r.told) ∧
    (∀ v : StatusView,
      StatusView.parse v.toJson.renderIndented = .ok { v with record := v.record.told }) ∧
    (∀ rs : List Record, Registry.Tells Record.read (rs.map Record.told)
      (Registry.jsonResponse (.list (rs.map Record.toJson)))) ∧
    (∀ (σ : Type) [RecordStore σ] (w : World σ) (reg : Registry) (req : Request)
      (rs : List Record), reg.debugEndpoints = true → req.method = "GET" →
      req.path = "/debug/all-states" → (w.run Registry.allStates).1 = .ok rs →
      Registry.Tells Record.read (rs.map Record.told) (w.run (reg.respond req)).1) ∧
    ∀ (r : Record) (tag : String), r.policy = .ofText tag →
      r.told = { r with submissionDate := none } := by
  refine ⟨fun r => readAll_render fun _ => r.reads, fun v => ?_, Registry.tells_allStates,
    fun _ _ _ _ _ _ => Registry.tells_respond_allStates, fun _ _ => Record.told_of_ofText⟩
  exact (readAll_render fun _ => v.reads).2

namespace OddRecords

def leaving : Record where
  name := "b\\\"\n\x01.é"
  status := .pendingRemoval
  submissionDate := some ⟨60, 0⟩
  policy := .ofText "google"

def refused : Record where
  name := "a.example"
  status := .rejected
  message := "\"no\"\t"
  includeSubDomains := true

def registry : Registry :=
  { Registry.listing ⟨[]⟩ with debugEndpoints := true }

theorem told_but_for_the_date :
    let w : World MemoryStore := .holding [leaving, refused]
    let view : StatusView := ⟨leaving, false, some "é"⟩
    Registry.Tells Record.read [refused, { leaving with submissionDate := none }]
        (w.run (registry.respond { method := "GET", path := "/debug/all-states" })).1 ∧
      StatusView.parse view.toJson.renderIndented =
        .ok { view with record := { leaving with submissionDate := none } } := by
  intro w view
  obtain ⟨-, hview, -, hpage, htold⟩ := views_decode_to_what_they_encode
  have hleaving := htold leaving "google" rfl
  have hrefused := htold refused "" rfl
  have hrun : (w.run Registry.allStates).1 = .ok [refused, leaving] := by rfl
  have htells := hpage MemoryStore w registry { method := "GET", path := "/debug/all-states" } _
    rfl rfl rfl hrun
  rw [List.map_cons, List.map_singleton, hleaving, hrefused] at htells
  have hparsed := hview view
  rw [hleaving] at hparsed
  exact ⟨htells, hparsed⟩

end OddRecords

end HstsPreload
