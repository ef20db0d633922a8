import HstsPreload.Proofs.Pages

/-!
# What the response to an update tells

The line that closes the report of an update is written in one of two places: where the plan is
written, or, if the writer failed before it told anything, where the request is answered. Whatever
the writer tells and however it ends, one of the two writes it and the other does not.
-/

namespace HstsPreload

open Program Web

lemma Plan.closing_ok (p : Plan) :
    p.closing (.ok ()) = s!"Success. {p.totalUpdates} domain states updated.\n" := by
  rw [← Plan.length_updates]
  rfl

lemma Plan.closing_error (p : Plan) (fault : StoreFault) : p.closing (.error fault) =
    "Internal error: datastore update failed. (" ++ fault.message ++ ")\n" := by
  have hhead : "Internal error: " ++ "datastore update failed. (" =
      "Internal error: datastore update failed. (" := by decide +kernel
  have hend : ")" ++ "\n" = ")\n" := by decide +kernel
  calc p.closing (.error fault)
    _ = "Internal error: " ++ ("datastore update failed. (" ++ fault.message ++ ")") ++ "\n" := rfl
    _ = ("Internal error: " ++ "datastore update failed. (") ++ fault.message ++ (")" ++ "\n") := by
      simp only [String.append_assoc]
    _ = _ := congrArg₂ (fun head tail => head ++ fault.message ++ tail) hhead hend

namespace Registry

variable {reg : Registry} {req : Request}

/-- Both places together: the summary, what the writer told, and one closing line. -/
lemma planResponse_told (p : Plan) (told : Writer.Report) :
    planResponse p (p.report told) =
      .text 200 (String.join (p.summary :: told.progress ++ [p.closing told.outcome])) := by
  have hjoin : String.join (p.summary :: told.progress ++ [p.closing told.outcome]) =
      p.summary ++ told.text ++ p.closing told.outcome := by
    simp [String.join_cons, Writer.Report.text, String.append_assoc]
  rw [hjoin]
  unfold planResponse Plan.report
  cases ho : told.outcome with
  | ok u => simp [String.append_assoc]
  | error fault =>
    by_cases hsilent : told.progress = []
    · -- nothing was told, so the closing line is left to the answer
      have htext : told.text = "" := by simp [Writer.Report.text, hsilent]
      simp [hsilent, htext]
    · have htold : told.progress.isEmpty = false := by simpa using hsilent
      simp [htold, String.append_assoc]

lemma respond_update (hget : req.method = "GET") (hpath : req.path = "/update") :
    reg.respond req = reg.planUpdate >>= fun answer =>
      match answer with
      | .error fault => pure (.internalError fault.message)
      | .ok p => reg.put p.updates >>= fun told => access .invalidate >>= fun _ =>
          pure (.text 200 (String.join (p.summary :: told.progress ++ [p.closing told.outcome]))) := by
  have hroute : Route.ofPath? reg.debugEndpoints req.path = some .update := by
    rw [hpath]
    rfl
  rw [respond_get hget rfl hroute]
  apply bind_congr
  intro answer
  cases answer with
  | error fault => rfl
  | ok p =>
    change (reg.applyPlan p >>= fun r => pure (planResponse p r)) = _
    simp only [applyPlan, bind_assoc, pure_bind, planResponse_told]

end Registry

/-- The response to an update tells how it went, once. Without a plan it is a failure that tells
why, and nothing has been done. With a plan it counts as a success and its text is the summary,
what the writer told, and one last line, which says how the writer ended. -/
theorem Registry.update_told_once {σ : Type} [RecordStore σ] (reg : Registry) (w : World σ)
    {req : Request} (hget : req.method = "GET") (hpath : req.path = "/update") :
    let answer := w.run (reg.respond req)
    (∀ fault, reg.planOver w.store = .error fault →
      answer.1 = .text 500 ("Internal error: " ++ fault.message ++ "\n") ∧ answer.2 = w) ∧
    ∀ p, reg.planOver w.store = .ok p →
      let written := w.run (reg.put p.updates)
      let log := p.summary :: written.1.progress
      answer.2.store = written.2.store ∧
      (written.1.outcome = .ok () →
        answer.1 = .text 200
          (String.join (log ++ [s!"Success. {p.totalUpdates} domain states updated.\n"]))) ∧
      ∀ fault, written.1.outcome = .error fault →
        answer.1 = .text 200 (String.join
          (log ++ ["Internal error: datastore update failed. (" ++ fault.message ++ ")\n"])) := by
  intro answer
  have hanswer : answer = w.run (reg.respond req) := rfl
  rw [respond_update hget hpath, World.run_bind, World.run_planUpdate] at hanswer
  constructor
  · intro fault hfault
    rw [hfault] at hanswer
    rw [hanswer]
    exact ⟨rfl, rfl⟩
  · intro p hp written log
    rw [hp] at hanswer
    dsimp only at hanswer
    rw [World.run_bind] at hanswer
    have hresponse : answer.1 = .text 200 (String.join (log ++ [p.closing written.1.outcome])) :=
      congrArg Prod.fst hanswer
    refine ⟨congrArg (fun a => a.2.store) hanswer, ?_, ?_⟩
    · intro hok
      rw [hresponse, hok, Plan.closing_ok]
    · intro fault hfault
      rw [hresponse, hfault, Plan.closing_error]

namespace Silent

/-- A registry whose writer fails without a word. -/
def reg : Registry :=
  { Registry.listing ⟨[⟨"a.example", .bulk1Year, .forceHttps, true⟩]⟩ with
    put := fun _ => pure ⟨[], .error (.unavailable "no answer")⟩ }

def asked : Request := { method := "GET", path := "/update" }

/-- The failure is told all the same, where there is a plan and where there is none. -/
theorem failure_told :
    let w : World MemoryStore := { store := {} }
    let down : World MemoryStore := { store := { down := true } }
    (w.run (reg.respond asked)).1 = .text 200 ("The preload list has 1 entries.\n" ++
      "- # of preloaded HSTS entries: 1\n- # to be added in this update: 1\n" ++
      "- # to be removed this update: 0\n- # to be self-rejected this update: 0\n" ++
      "Internal error: datastore update failed. (store unavailable: no answer)\n") ∧
    (down.run (reg.respond asked)).1 = .text 500 ("Internal error: could not retrieve domain " ++
      "names previously marked as preloaded. (store unavailable: forced failure)\n") := by
  intro w down
  have hplan : reg.planOver w.store = .ok (.ofRecords _ ∅) := rfl
  have hnone : reg.planOver down.store =
      .error (.read "preloaded" MemoryStore.forcedFailure) := rfl
  have hget : asked.method = "GET" := rfl
  have hpath : asked.path = "/update" := rfl
  obtain ⟨-, htold⟩ := Registry.update_told_once reg w hget hpath
  obtain ⟨hfailed, -⟩ := Registry.update_told_once reg down hget hpath
  obtain ⟨-, -, hwritten⟩ := htold _ hplan
  refine ⟨(hwritten _ rfl).trans ?_, (hfailed _ hnone).1.trans ?_⟩
  · decide +kernel
  · decide +kernel

end Silent

end HstsPreload
