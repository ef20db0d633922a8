import HstsPreload.Proofs.Routing
import HstsPreload.Service

/-!
# The registry within the service

Under its common path the service answers as the registry does, whatever is asked. The policy of the
service is added to a response that is otherwise complete, and nothing else in a response depends on
how the request came.
-/

namespace HstsPreload

open Program Web Text

namespace Program

variable {α β : Type} {post : α → Prop}

/-- Whatever a program is told, its answer satisfies `post`. -/
def Always (post : α → Prop) : Program α → Prop
  | .done a => post a
  | .step _ next => ∀ answer, (next answer).Always post

namespace Always

lemma bind {p : Program β} {f : β → Program α} (h : ∀ b, (f b).Always post) :
    (p >>= f).Always post := by
  induction p with
  | done b => exact h b
  | step a next ih => exact ih

lemma map {told : β → Prop} {p : Program β} {f : β → α} (h : p.Always told)
    (hf : ∀ b, told b → post (f b)) : (p >>= fun b => pure (f b)).Always post := by
  induction p with
  | done b => exact hf b h
  | step a next ih => exact fun answer => ih answer (h answer)

lemma run {σ : Type} [RecordStore σ] {p : Program α} (h : p.Always post) (w : World σ) :
    post (w.run p).1 := by
  induction p generalizing w with
  | done a => exact h
  | step a next ih => exact ih _ (h _) _

end Always

end Program

namespace Web

/-- A response without the policy that a service announces for itself. -/
def Response.plain (r : Response) : Response :=
  { r with transportSecurity := none }

/-- A response that announces nothing. -/
def Response.IsPlain (r : Response) : Prop :=
  r.transportSecurity = none

def protocolHeader : List Char :=
  "x-forwarded-proto".toList

/-- A request came over HTTPS: of the headers that tell how it came, in capitals or not, the first
says just that. -/
def Request.CameSecurely (req : Request) : Prop :=
  ∃ before name after, req.headers = before ++ (name, "https") :: after ∧
    lowerAscii name.toList = protocolHeader ∧
    ∀ header ∈ before, lowerAscii header.1.toList ≠ protocolHeader

end Web

namespace Registry

variable {reg : Registry} {req : Request}

lemma isPlain_of_domainOf {response : Response} (h : domainOf req = .error response) :
    response.IsPlain := by
  unfold domainOf at h
  split at h
  · cases h; rfl
  · cases h; rfl
  · split at h
    · cases h; rfl
    · split at h <;> cases h
      rfl

lemma isPlain_aboutDomain {answer : String → Program Response}
    (h : ∀ domain, (answer domain).Always Response.IsPlain) :
    (aboutDomain req answer).Always Response.IsPlain := by
  unfold aboutDomain
  cases hd : domainOf req with
  | ok domain => exact h domain
  | error response => exact isPlain_of_domainOf hd

lemma isPlain_respondUpdate : reg.respondUpdate.Always Response.IsPlain := by
  refine .bind fun answer => ?_
  cases answer with
  | error fault => rfl
  | ok p => exact .bind fun _ => rfl

lemma isPlain_respondTo (r : Route) : (reg.respondTo req r).Always Response.IsPlain := by
  cases r with
  | preloadable => exact isPlain_aboutDomain fun _ => rfl
  | removable | status | submit | remove =>
    exact isPlain_aboutDomain fun _ => .bind fun answer => by cases answer <;> rfl
  | setPreloaded => exact isPlain_aboutDomain fun _ => .bind fun _ => rfl
  | update => exact isPlain_respondUpdate
  | pending | pendingRemoval | pendingAutomatedRemoval | allStates =>
    exact .bind fun answer => by cases answer <;> rfl

lemma isPlain_wrongMethod (r : Route) : r.wrongMethod.IsPlain := by
  unfold Route.wrongMethod
  split <;> rfl

lemma isPlain_respond (reg : Registry) (req : Request) :
    (reg.respond req).Always Response.IsPlain := by
  unfold respond
  split
  · rfl
  · next r _ =>
    split
    · split
      · exact isPlain_respondTo r
      · exact isPlain_wrongMethod r
    · split
      · exact isPlain_respondTo r
      · split
        · exact (isPlain_respondTo r).map fun _ hplain => hplain
        · exact isPlain_wrongMethod r

end Registry

namespace Service

variable {reg : Registry} {ready : Bool} {metrics : String} {req : Request}

lemma isPlain_ownResponse {path : String} {response : Response}
    (h : ownResponse? ready metrics path = some response) : response.IsPlain := by
  unfold ownResponse? at h
  split at h
  · cases h; rfl
  · cases h
    cases ready <;> rfl
  · cases h; rfl
  · cases h

lemma isPlain_respondInside (reg : Registry) (ready : Bool) (metrics : String) (req : Request) :
    (respondInside reg ready metrics req).Always Response.IsPlain := by
  unfold respondInside
  split
  · next response h =>
    have hplain := isPlain_ownResponse h
    split
    · exact hplain
    · split
      · exact hplain
      · rfl
  · split
    · exact Registry.isPlain_respond reg _
    · rfl

lemma isSecure_iff : isSecure req = true ↔ req.CameSecurely := by
  have hheader : isSecure req = true ↔ ∃ name, req.headers.find?
      (fun h => lowerAscii h.1.toList == protocolHeader) = some (name, "https") := by
    rw [isSecure, beq_iff_eq, Request.header?, Option.map_eq_some_iff]
    constructor
    · rintro ⟨⟨name, value⟩, hfind, rfl⟩
      exact ⟨name, hfind⟩
    · rintro ⟨name, hfind⟩
      exact ⟨_, hfind, rfl⟩
  rw [hheader]
  simp only [List.find?_eq_some_iff_append, Request.CameSecurely, Bool.not_eq_eq_eq_not,
    Bool.not_true, beq_iff_eq, beq_eq_false_iff_ne]
  constructor
  · rintro ⟨name, hname, before, after, hsplit, hbefore⟩
    exact ⟨before, name, after, hsplit, hname, hbefore⟩
  · rintro ⟨before, name, after, hsplit, hname, hbefore⟩
    exact ⟨name, hname, before, after, hsplit, hbefore⟩

/-- The response with the policy of the service, where the request came over HTTPS. -/
def announced (req : Request) (response : Response) : Response :=
  if isSecure req then { response with transportSecurity := some ownPolicy } else response

lemma respond_eq (reg : Registry) (ready : Bool) (metrics : String) (req : Request) :
    respond reg ready metrics req =
      respondInside reg ready metrics req >>= fun response => pure (announced req response) := by
  unfold respond announced
  split <;> rfl

lemma respondInside_headers (headers : List (String × String)) :
    respondInside reg ready metrics { req with headers } =
      respondInside reg ready metrics req := rfl

lemma ownResponse?_under (rest : String) :
    ownResponse? ready metrics ("/api/v2" ++ ("/" ++ rest)) = none := by
  have hother : ∀ path : String, path.toList.take 7 ≠ basePath →
      "/api/v2" ++ ("/" ++ rest) ≠ path := by
    rintro _ hne rfl
    exact hne (by rw [String.toList_append]; rfl)
  unfold ownResponse?
  split
  · next h => exact absurd h (hother _ (by decide))
  · next h => exact absurd h (hother _ (by decide))
  · next h => exact absurd h (hother _ (by decide))
  · rfl

lemma registryPath?_under (rest : String) : registryPath? ("/api/v2" ++ ("/" ++ rest)) =
    if rest = "" then none else some ("/" ++ rest) := by
  have hcommon : ("/api/v2" ++ ("/" ++ rest)).toList = basePath ++ '/' :: rest.toList := by
    rw [String.toList_append, String.toList_append]
    rfl
  rw [registryPath?]
  rw [hcommon, List.take_left, if_pos rfl, List.drop_left]
  by_cases h : rest = ""
  · rw [if_pos h, h]
    rfl
  · have hpath : String.ofList ('/' :: rest.toList) = "/" ++ rest :=
      String.toList_inj.mp (by rw [String.toList_append, String.toList_ofList]; rfl)
    rw [if_neg h, ← hpath]
    exact if_neg (mt String.toList_eq_nil_iff.mp h)

/-- Under the common path the service does what the registry does. The path with nothing behind its
slash is in neither of them, and the registry answers it as any path it does not have. -/
lemma respondInside_under (rest : String) :
    respondInside reg ready metrics { req with path := "/api/v2" ++ ("/" ++ rest) } =
      reg.respond { req with path := "/" ++ rest } := by
  rw [respondInside, ownResponse?_under, registryPath?_under]
  by_cases h : rest = ""
  · rw [if_pos h, h]
    rfl
  · rw [if_neg h]

variable {σ : Type} [RecordStore σ] {w : World σ}

lemma run_respond : w.run (respond reg ready metrics req) =
    let told := w.run (respondInside reg ready metrics req)
    (announced req told.1, told.2) := by
  rw [respond_eq, World.run_bind]
  rfl

lemma plain_announced (response : Response) : (announced req response).plain = response.plain := by
  unfold announced
  split <;> rfl

lemma announced_eq_some_iff {response : Response} (h : response.IsPlain) :
    (announced req response).transportSecurity = some ownPolicy ↔ req.CameSecurely := by
  rw [← isSecure_iff, announced]
  split
  · next hs => exact iff_of_true rfl hs
  · next hs => exact iff_of_false (fun heq => nomatch h.symm.trans heq) hs

lemma announced_eq_none_iff {response : Response} (h : response.IsPlain) :
    (announced req response).transportSecurity = none ↔ ¬req.CameSecurely := by
  rw [← isSecure_iff, announced]
  split
  · next hs => exact iff_of_false (fun heq => nomatch heq) (not_not_intro hs)
  · next hs => exact iff_of_true h hs

/-- A path of the registry is answered under the common path as the registry answers it, and does
the same. Any request whatever is told the policy of the service exactly if it came over HTTPS;
neither the rest of the response nor what is done depends on the headers of the request. -/
theorem registry_under_prefix (reg : Registry) (ready : Bool) (metrics : String) (w : World σ)
    (req : Request) :
    (∀ rest : String,
      let served :=
        w.run (respond reg ready metrics { req with path := "/api/v2" ++ ("/" ++ rest) })
      let own := w.run (reg.respond { req with path := "/" ++ rest })
      served.1.status = own.1.status ∧ served.1.body = own.1.body ∧
        served.1.allow = own.1.allow ∧ served.1.contentType = own.1.contentType ∧
        served.2 = own.2) ∧
    let answer := w.run (respond reg ready metrics req)
    (answer.1.transportSecurity = some ownPolicy ↔ req.CameSecurely) ∧
      (answer.1.transportSecurity = none ↔ ¬req.CameSecurely) ∧
      ∀ headers, let other := w.run (respond reg ready metrics { req with headers })
        other.1.plain = answer.1.plain ∧ other.2 = answer.2 := by
  have hinside := (isPlain_respondInside reg ready metrics req).run w
  refine ⟨fun rest => ?_, ?_, ?_, fun headers => ?_⟩
  · dsimp only
    rw [run_respond, respondInside_under]
    dsimp only
    generalize w.run (reg.respond { req with path := "/" ++ rest }) = told
    unfold announced
    split <;> exact ⟨rfl, rfl, rfl, rfl, rfl⟩
  · rw [run_respond]
    exact announced_eq_some_iff hinside
  · rw [run_respond]
    exact announced_eq_none_iff hinside
  · dsimp only
    rw [run_respond, run_respond, respondInside_headers]
    exact ⟨by rw [plain_announced, plain_announced], rfl⟩

end Service

end HstsPreload
