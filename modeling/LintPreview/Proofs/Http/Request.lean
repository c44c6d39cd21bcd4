import LintPreview.Http.Site
import LintPreview.Proofs.Simulation.Course

/-!
# From a request to its response

* `Job.exists_of_runs_bind_ok`: the parts of a job that returns.
* `Http.Request.LeadsTo`: the route that a request leads to.
* `Http.Site.runs_answer_iff`: what is answered is what the service behind the route answers, as far as it can be
  written. A failure of the services' own has an answer of its own, any other failure the same one for all.
* `Http.Site.exists_of_runs_inWorkspace`: the workspace is looked at before all else.
-/

namespace LintPreview

open Program (World)

/-- Where a job returns that goes on with the result of another one, that one has returned. -/
theorem Job.exists_of_runs_bind_ok {σ α β : Type} {w : World ServiceAct ServiceAct.Reply σ} {q q' : σ}
    {events : List ServiceEvent} {job : Job α} {f : α → Job β} {b : β} (h : Runs w (job >>= f) q events (.ok b) q') :
    ∃ a q₁ events₁ events₂, Runs w job q events₁ (.ok a) q₁ ∧ Runs w (f a) q₁ events₂ (.ok b) q' ∧
      events = events₁ ++ events₂ := by
  rcases runs_bind_iff.mp h with hboth | ⟨stop, -, he⟩
  · exact hboth
  · cases he

namespace Http

/-- A request leads to a route. -/
def Request.LeadsTo (r : Request) (route : Route) : Prop :=
  ∃ path, pathOf r.target = .ok path ∧
    Destination.find (Text.ofList (r.method.toList.map CodePoint.toUpper)) path = .route route

theorem Destination.method_of_find {method : Text} {path : List CodePoint} {route : Route}
    (h : find method path = .route route) : route.method = method := by
  unfold find at h
  split at h
  · split at h
    · rename_i hmethod
      cases h
      exact hmethod
    · cases h
  · split at h <;> cases h

namespace Site

variable {σ : Type} {w : World ServiceAct ServiceAct.Reply σ} {q q' : σ} {events : List ServiceEvent} {s : Site}

/-- The answer for the end of a service. -/
def answerFor : Except Stop Response → Except Stop Response
  | .ok response => .ok response.written
  | .error (.failed f) => .ok (failureResponse f).written
  | .error .cancelled => .error .cancelled

theorem eq_of_status_written {response : Response} (h : response.written.status = 200) :
    response.written = response ∧ response.status = 200 := by
  unfold Response.written at h ⊢
  split at h
  · rename_i hwritable
    exact ⟨if_pos hwritable, h⟩
  · cases h

/-- No failure is answered as a success. -/
theorem status_failureResponse_ne (f : Failure) : (failureResponse f).status ≠ 200 := by
  unfold failureResponse
  split
  · cases f <;> simp [Response.json, Failure.statusCode]
  · simp [Response.internalError, Response.text]

/-- What is answered with success is what the service behind the route has answered. -/
theorem eq_ok_of_answerFor {e : Except Stop Response} {response : Response} (h : answerFor e = .ok response)
    (hstatus : response.status = 200) : e = .ok response := by
  rcases e with (f | _) | given
  · cases h
    exact absurd (eq_of_status_written hstatus).2 (status_failureResponse_ne f)
  · cases h
  · cases h
    rw [(eq_of_status_written hstatus).1]

/-- Every run of the answer to a request is a run of the service behind its route. -/
theorem runs_answer_iff {r : Request} {route : Route} (hroute : r.LeadsTo route) (hpost : route.method = "POST")
    {e : Except Stop Response} : Job.Runs w (s.answer r) q events e q' ↔
      ∃ e₁, Job.Runs w (s.serve r.body route) q events e₁ q' ∧ e = answerFor e₁ := by
  obtain ⟨path, hpath, hfind⟩ := hroute
  have hmethod : Text.ofList (r.method.toList.map CodePoint.toUpper) ≠ "HEAD" := by
    rw [← Destination.method_of_find hfind, hpost]
    decide
  have hanswer : s.answer r = ((s.serve r.body route).outcome >>= fun e => match e with
      | .ok response => pure response.written
      | .error (.failed f) => pure (failureResponse f).written
      | .error .cancelled => throw .cancelled) := by
    unfold answer
    rw [hpath]
    show (s.arrive r.body (Destination.find (Text.ofList (r.method.toList.map CodePoint.toUpper)) path)).outcome >>= _ = _
    simp only [hfind, if_neg hmethod]
    rfl
  have hend : ∀ {e₁ e q₁ events}, Job.Runs w (match e₁ with
      | .ok response => pure response.written
      | .error (.failed f) => pure (failureResponse f).written
      | .error .cancelled => throw .cancelled) q₁ events e q' ↔ events = [] ∧ e = answerFor e₁ ∧ q' = q₁ := by
    rintro ((f | _) | response) e q₁ events <;> exact Program.runs_done_iff
  rw [hanswer, Job.runs_outcome_bind_iff]
  constructor
  · rintro ⟨e₁, q₁, events₁, events₂, hserve, hrest, rfl⟩
    obtain ⟨rfl, rfl, rfl⟩ := hend.mp hrest
    rw [List.append_nil]
    exact ⟨e₁, hserve, rfl⟩
  · rintro ⟨e₁, hserve, rfl⟩
    exact ⟨e₁, q', events, [], hserve, hend.mpr ⟨rfl, rfl, rfl⟩, (List.append_nil events).symm⟩

/-- No refusal of a body is answered as a success. -/
theorem status_ne_of_refused {α : Type} {check : Json → Checked α} {body : List UInt8} {refused : Response}
    (h : readForm check body = .error refused) : refused.status ≠ 200 := by
  unfold readForm at h
  split at h
  · cases h
    decide
  · split at h
    · cases h
      decide
    · cases h
      simp [refusal, Response.detail, Response.json]
    · cases h
      decide
    · split at h
      · cases h
      · cases h
        split <;> simp [refusal, Response.detail, Response.json, Response.internalError, Response.text]

/-- Why a response is not given: it is refused before the workspace is looked at, or it is not given in it. -/
theorem exists_of_runs_inWorkspace {path : Text} {respond : Path → Job Response} {e : Except Stop Response}
    (h : Job.Runs w (s.inWorkspace path respond) q events e q') :
    (∃ fault, (Path.ofString path).expandHome s.home = .error fault ∧ events = [] ∧ e = .error (.failed (.home fault)) ∧
      q' = q) ∨
    ∃ workspace reply q₁ events', (Path.ofString path).expandHome s.home = .ok workspace ∧
      w (.isDirectory workspace) q reply q₁ ∧ events = ⟨.isDirectory workspace, reply⟩ :: events' ∧
      ((reply = .ok true ∧ Job.Runs w (respond workspace) q₁ events' e q') ∨
        (reply = .ok false ∧ events' = [] ∧
          e = .ok (.detail 400 (.text ("Workspace '" ++ path ++ "' is not a directory."))) ∧ q' = q₁) ∨
        ∃ f, reply = .error f ∧ events' = [] ∧ e = .error (.failed f) ∧ q' = q₁) := by
  rcases Job.runs_ofResult_bind_iff.mp h with ⟨workspace, hworkspace, hrest⟩ | ⟨f, hf, rfl, rfl, rfl⟩
  · replace hrest := Job.runs_reply_bind_iff.mp hrest
    obtain ⟨reply, q₁, events', hlook, rfl, ⟨isDirectory, hreply, hrest⟩ | ⟨stop, hreply, rfl, rfl, rfl⟩⟩ := hrest
    · refine .inr ⟨workspace, reply, q₁, events', eq_ok_of_mapError hworkspace, hlook, rfl, ?_⟩
      obtain rfl := eq_ok_of_mapError hreply
      cases isDirectory with
      | true => exact .inl ⟨rfl, hrest⟩
      | false =>
        obtain ⟨rfl, rfl, rfl⟩ := Job.runs_pure_iff.mp hrest
        exact .inr (.inl ⟨rfl, rfl, rfl, rfl⟩)
    · refine .inr ⟨workspace, reply, q', [], eq_ok_of_mapError hworkspace, hlook, rfl, .inr (.inr ?_)⟩
      cases reply with
      | ok isDirectory => cases hreply
      | error f =>
        cases hreply
        exact ⟨f, rfl, rfl, rfl, rfl⟩
  · left
    cases hexpand : (Path.ofString path).expandHome s.home with
    | ok workspace =>
      rw [hexpand] at hf
      cases hf
    | error fault =>
      rw [hexpand] at hf
      cases hf
      exact ⟨fault, rfl, rfl, rfl, rfl⟩

end Site

end Http

end LintPreview
