import LintPreview.Proofs.Http.Unexpected

/-!
# How requests for simulations are handled

* `Http.Site.Gives`: what is answered to an order: the result, the refusal of a workspace that is no directory, a failure
  of the services' own, or nothing but that there is an internal error.
* `Http.Site.exists_gives_of_runs_simulate`, `Http.Site.exists_gives_of_runs_simulateBatch`: the orders in forms are
  answered.
* `Http.Site.runs_answer_order`: every request for simulations is answered so. The path of a workspace can lead to an
  internal error (`Http.Site.run_answer_unknownHome`).
-/

namespace LintPreview.Http.Site

open Workplace (Meets)

variable {s : Site} {flaky : Bool} {p p' : Workplace} {o : Order} {events : List ServiceEvent}

/-! ### What is answered -/

/-- What is answered to an order, before it is written. -/
inductive Gives (s : Site) (flaky : Bool) (p : Workplace) (o : Order) (events : List ServiceEvent)
    (IsResult : Json → Prop) : Response → Prop where
  /-- The result, in a workspace that is a directory. -/
  | result {workspace : Path} {v : Json} (expands : (Path.ofString o.workspace).expandHome s.home = .ok workspace)
      (present : p.host.files.checkDirectory workspace = .ok true) (isResult : IsResult v) :
      Gives s flaky p o events IsResult (.json 200 v)
  /-- The workspace is no directory. -/
  | noDirectory {workspace : Path} (expands : (Path.ofString o.workspace).expandHome s.home = .ok workspace)
      (absent : p.host.files.checkDirectory workspace = .ok false) :
      Gives s flaky p o events IsResult (.detail 400 (.text ("Workspace '" ++ o.workspace ++ "' is not a directory.")))
  /-- A failure of the services' own, in a workspace that is a directory. -/
  | own {workspace : Path} {f : Failure} (expands : (Path.ofString o.workspace).expandHome s.home = .ok workspace)
      (present : p.host.files.checkDirectory workspace = .ok true) (own : f.isOwn = true) :
      Gives s flaky p o events IsResult (.json f.statusCode.1 f.body)
  /-- Any other failure shows nothing of itself. -/
  | unexpected {f : Failure} (foreign : f.isOwn = false) (unexpected : s.Unexpected flaky p o events f) :
      Gives s flaky p o events IsResult .internalError

variable {IsResult : Json → Prop}

/-- What is done in a workspace ends with a result, or with a failure that is known. -/
def EndsKnown (s : Site) (flaky : Bool) (p : Workplace) (o : Order) (events : List ServiceEvent) (IsResult : Json → Prop)
    (e : Except Stop Response) : Prop :=
  (∃ v, IsResult v ∧ e = .ok (.json 200 v)) ∨ ∃ f, e = .error (.failed f) ∧ s.Known flaky p o events f

/-- A job whose end is known if it fails, and what is done with its result. -/
theorem endsKnown_of_runs_bind {α : Type} {q q' : Workplace} {own : List ServiceEvent} {job : Job α} {f : α → Job Response}
    {e : Except Stop Response} (h : Job.Runs (Meets flaky) (job >>= f) q own e q')
    (herror : ∀ stop, Job.Runs (Meets flaky) job q own (.error stop) q' →
      ∃ failure, stop = .failed failure ∧ s.Known flaky p o events failure)
    (hok : ∀ a q₁ own₁ own₂, Job.Runs (Meets flaky) job q own₁ (.ok a) q₁ → Job.Runs (Meets flaky) (f a) q₁ own₂ e q' →
      own = own₁ ++ own₂ → s.EndsKnown flaky p o events IsResult e) : s.EndsKnown flaky p o events IsResult e := by
  rcases Job.runs_bind_iff.mp h with ⟨a, q₁, own₁, own₂, hjob, hrest, hown⟩ | ⟨stop, hfails, rfl⟩
  · exact hok a q₁ own₁ own₂ hjob hrest hown
  · obtain ⟨failure, rfl, hf⟩ := herror stop hfails
    exact .inr ⟨failure, rfl, hf⟩

theorem exists_gives_of_unexpected {f : Failure} (hown : f.isOwn = false) (h : s.Unexpected flaky p o events f) :
    ∃ given, s.Gives flaky p o events IsResult given ∧ answerFor (.error (.failed f)) = .ok given.written := by
  rw [answerFor, failureResponse, hown]
  exact ⟨_, .unexpected hown h, rfl⟩

/-- What is answered in a workspace that is a directory. -/
theorem exists_gives_of_endsKnown {workspace : Path} {e : Except Stop Response}
    (hexpand : (Path.ofString o.workspace).expandHome s.home = .ok workspace)
    (hpresent : p.host.files.checkDirectory workspace = .ok true) (h : s.EndsKnown flaky p o events IsResult e) :
    ∃ given, s.Gives flaky p o events IsResult given ∧ answerFor e = .ok given.written := by
  rcases h with ⟨v, hv, rfl⟩ | ⟨f, rfl, hf⟩
  · exact ⟨_, .result hexpand hpresent hv, rfl⟩
  · cases hown : f.isOwn with
    | true =>
      rw [answerFor, failureResponse, hown]
      exact ⟨_, .own hexpand hpresent hown, rfl⟩
    | false => exact exists_gives_of_unexpected hown (hf.resolve_left (Bool.eq_false_iff.mp hown))

theorem exists_of_checkDirectory {t : FileTree} {path : Path} {f : Failure} (h : t.checkDirectory path = .error f) :
    ∃ e, f = .path (.file e) ∧ t.lookup path = .error (.file e) ∧ e.cause = .nameTooLong := by
  unfold FileTree.checkDirectory at h
  split at h
  · cases h
  · rename_i e he
    split at h
    · rename_i hlong
      cases h
      exact ⟨e, rfl, he, hlong⟩
    · cases h
  · cases h

/-- What is answered in a workspace, if what is done there ends with a result or a failure that is known. -/
theorem exists_gives_of_runs_inWorkspace {respond : Path → Job Response} {e : Except Stop Response}
    (h : Job.Runs (Meets flaky) (s.inWorkspace o.workspace respond) p events e p')
    (hrespond : ∀ workspace q own e q', (Path.ofString o.workspace).expandHome s.home = .ok workspace →
      Job.Runs (Meets flaky) (respond workspace) q own e q' → (∀ event ∈ own, event ∈ events) →
      s.EndsKnown flaky p o events IsResult e) :
    ∃ given, s.Gives flaky p o events IsResult given ∧ answerFor e = .ok given.written := by
  rcases exists_of_runs_inWorkspace h with
    ⟨fault, hfault, -, rfl, -⟩ |
    ⟨workspace, reply, q₁, events', hexpand, hlook, hevents, ⟨rfl, hrest⟩ | ⟨rfl, -, rfl, -⟩ | ⟨f, rfl, -, rfl, -⟩⟩
  · exact exists_gives_of_unexpected rfl (.home (.inl rfl) hfault)
  · have hpart : ∀ event ∈ events', event ∈ events := fun event hevent => hevents ▸ List.mem_cons_of_mem _ hevent
    exact exists_gives_of_endsKnown hexpand hlook.1.1.symm (hrespond workspace _ _ _ _ hexpand hrest hpart)
  · exact ⟨_, .noDirectory hexpand hlook.1.1.symm, rfl⟩
  · obtain ⟨e, rfl, hlookup, hlong⟩ := exists_of_checkDirectory hlook.1.1.symm
    exact exists_gives_of_unexpected rfl (.lookup hexpand hlookup hlong)

/-- The value is the result of simulating the rule of a form. -/
def IsResultOf (s : Site) (f : SimulationForm) (events : List ServiceEvent) (v : Json) : Prop :=
  ∃ workspace base isOptin works result, (Path.ofString f.workspace).expandHome s.home = .ok workspace ∧
    s.simulator.Course f.rule workspace base isOptin works (.ok result) ∧ (∀ event ∈ works, event ∈ events) ∧
    v = result.toJson

/-- The value is the result of a batch of rules, all of which have had their turn. -/
def IsBatchResultOf (f : BatchForm) (events : List ServiceEvent) (v : Json) : Prop :=
  ∃ turns batch, Completes f.rules turns ∧ BatchResult.Sums batch turns ∧
    (∀ t ∈ turns, ∀ event ∈ t.events, event ∈ events) ∧ v = batchRecord batch

/-- A simulation on top of a fetched configuration that gives a result is one on top of its file. -/
theorem exists_course_of_runs_simulateRemote {q q' : Workplace} {own : List ServiceEvent} {rule url : Text}
    {workspace : Path} {isOptin : Bool} {result : SimulationResult}
    (h : Job.Runs (Meets flaky) (s.simulator.simulateRemote rule workspace url isOptin) q own (.ok result) q') :
    ∃ base works, s.simulator.Course rule workspace base isOptin works (.ok result) ∧ ∀ event ∈ works, event ∈ own := by
  obtain ⟨fetched, q₁, events₁, events₂, -, rfl, -, hcourse⟩ := Simulator.remoteCourse_of_runs h
  generalize hworks : Simulator.worksOf events₂ = works at hcourse
  cases hcourse with
  | simulated text directory course =>
    refine ⟨_, _, course, fun event hevent => List.mem_append_right _ ?_⟩
    refine List.mem_of_mem_filter (p := fun event : ServiceEvent => event.1.isWork) ?_
    rw [show events₂.filter (·.1.isWork) = _ from hworks]
    exact List.mem_cons_of_mem _ (List.mem_cons_of_mem _ (List.mem_append_left _ hevent))

/-- The orders of forms for one rule are answered. -/
theorem exists_gives_of_runs_simulate {f : SimulationForm} {e : Except Stop Response}
    (h : Job.Runs (Meets flaky) (s.simulate f) p events e p') :
    ∃ given, s.Gives flaky p f.order events (s.IsResultOf f events) given ∧ answerFor e = .ok given.written := by
  have hrule : f.rule ∈ f.order.rules := List.mem_cons_self
  have hsteps := h.steps
  refine exists_gives_of_runs_inWorkspace (o := f.order) h fun workspace q own e q' hexpand hrespond hown => ?_
  refine endsKnown_of_runs_bind hrespond (fun stop hfails => failsFor_isOptin _ _ _ _ _ _ hfails) ?_
  rintro isOptin q₁ own₁ own₂ - hchoice rfl
  replace hown : ∀ event ∈ own₂, event ∈ events := fun event hevent => hown event (List.mem_append_right _ hevent)
  cases hurl : filled? f.baseUrl with
  | some url =>
    simp only [hurl] at hchoice
    refine endsKnown_of_runs_bind hchoice
      (fun stop hfails => known_of_runs_simulateRemote hfails hown hsteps hrule hurl) ?_
    rintro result q₂ own₃ own₄ hsimulate hend rfl
    obtain ⟨-, rfl, -⟩ := Job.runs_pure_iff.mp hend
    obtain ⟨base, works, hcourse, hworks⟩ := exists_course_of_runs_simulateRemote hsimulate
    refine .inl ⟨_, ⟨workspace, base, isOptin, works, result, hexpand, hcourse, fun event hevent => ?_, rfl⟩, rfl⟩
    exact hown event (List.mem_append_left _ (hworks event hevent))
  | none =>
    simp only [hurl] at hchoice
    refine endsKnown_of_runs_bind hchoice (fun stop hfails => failsFor_basePath rfl _ _ _ _ hfails) ?_
    rintro base q₂ own₃ own₄ hbase hlocal rfl
    replace hown : ∀ event ∈ own₄, event ∈ events := fun event hevent => hown event (List.mem_append_right _ hevent)
    have hreads : ∀ path, base = some path → s.ReadsBaseline f.order path := by
      rintro path rfl
      obtain ⟨text, hnamed, hpath⟩ := exists_of_runs_basePath hbase
      exact .named hnamed hpath
    refine endsKnown_of_runs_bind hlocal (fun stop hfails => known_of_course (Simulator.course_of_runs hfails)
      (fun event hevent => hown event (List.mem_of_mem_filter hevent)) hsteps hrule hreads) ?_
    rintro result q₃ own₅ own₆ hsimulate hend rfl
    obtain ⟨-, rfl, -⟩ := Job.runs_pure_iff.mp hend
    refine .inl ⟨_, ⟨workspace, base, isOptin, _, result, hexpand, Simulator.course_of_runs hsimulate,
      fun event hevent => ?_, rfl⟩, rfl⟩
    exact hown event (List.mem_append_left _ (List.mem_of_mem_filter hevent))

/-- The orders of forms for several rules are answered. -/
theorem exists_gives_of_runs_simulateBatch {f : BatchForm} {e : Except Stop Response}
    (h : Job.Runs (Meets flaky) (s.simulateBatch f) p events e p') :
    ∃ given, s.Gives flaky p f.order events (IsBatchResultOf f events) given ∧ answerFor e = .ok given.written := by
  have hsteps := h.steps
  refine exists_gives_of_runs_inWorkspace (o := f.order) h fun workspace q own e q' hexpand hrespond hown => ?_
  refine endsKnown_of_runs_bind hrespond (fun stop hfails => failsFor_optins _ _ _ _ _ hfails) ?_
  rintro optins q₁ own₁ own₂ - hpath rfl
  refine endsKnown_of_runs_bind hpath (fun stop hfails => failsFor_basePath rfl _ _ _ _ hfails) ?_
  rintro base q₂ own₃ own₄ hbase hbatch rfl
  replace hown : ∀ event ∈ own₄, event ∈ events :=
    fun event hevent => hown event (List.mem_append_right _ (List.mem_append_right _ hevent))
  have hreads : ∀ path, base = some path → s.ReadsBaseline f.order path := by
    rintro path rfl
    obtain ⟨text, hnamed, hpath⟩ := exists_of_runs_basePath hbase
    exact .named hnamed hpath
  refine endsKnown_of_runs_bind hbatch
    (fun stop hfails => known_of_runs_simulateRules (o := f.order) hfails hown hsteps hreads) ?_
  rintro batch q₃ own₅ own₆ hsimulate hend rfl
  obtain ⟨-, rfl, -⟩ := Job.runs_pure_iff.mp hend
  obtain ⟨start, turns, behind, q₄, q₅, -, -, rfl, hends⟩ := Simulator.exists_of_runs_simulateRules hsimulate
  cases hends with
  | completed completes stop m sums =>
    refine .inl ⟨_, ⟨turns, batch, completes, sums, fun t ht event hevent => hown event ?_, rfl⟩, rfl⟩
    exact List.mem_append_left _ (List.mem_cons_of_mem _ (List.mem_append_left _ (Simulator.Batch.mem_eventsOf _ ht hevent)))

/-- The answer to a form is what is answered to its order, where the service behind its route does so. -/
theorem exists_gives_of_runs_answer {α : Type} {r : Request} {route : Route} {check : Json → Checked α} {form : α}
    {respond : α → Job Response} {e : Except Stop Response} (h : Job.Runs (Meets flaky) (s.answer r) p events e p')
    (hroute : r.LeadsTo route) (hpost : route.method = "POST")
    (hserve : s.serve r.body route = withForm check r.body respond)
    (hform : readForm check r.body = .ok form)
    (hrespond : ∀ e, Job.Runs (Meets flaky) (respond form) p events e p' →
      ∃ given, s.Gives flaky p o events IsResult given ∧ answerFor e = .ok given.written) :
    ∃ given, s.Gives flaky p o events IsResult given ∧ e = .ok given.written := by
  obtain ⟨e₁, hruns, rfl⟩ := (runs_answer_iff hroute hpost).mp h
  rw [hserve, withForm, hform] at hruns
  exact hrespond e₁ hruns

/-- Every request for simulations whose body is accepted is answered: with the result, with the refusal of a workspace
that is no directory, with the status and the code for a failure of the services' own, or, where something unexpected
comes up or a response cannot be written, with an internal error. -/
theorem runs_answer_order (s : Site) (flaky : Bool) (p : Workplace) (r : Request) :
    (∃ events e p', Job.Runs (Meets flaky) (s.answer r) p events e p') ∧
    ∀ events e p', Job.Runs (Meets flaky) (s.answer r) p events e p' →
      (∀ f, r.LeadsTo .simulate → readForm SimulationForm.check r.body = .ok f →
        ∃ given, s.Gives flaky p f.order events (s.IsResultOf f events) given ∧ e = .ok given.written) ∧
      ∀ f, r.LeadsTo .simulateBatch → readForm BatchForm.check r.body = .ok f →
        ∃ given, s.Gives flaky p f.order events (IsBatchResultOf f events) given ∧ e = .ok given.written := by
  refine ⟨Program.exists_runs (Workplace.isTotal_meets flaky) _ p, fun events e p' h => ⟨?_, ?_⟩⟩
  · intro f hroute hform
    exact exists_gives_of_runs_answer h hroute rfl rfl hform fun e hrun => exists_gives_of_runs_simulate hrun
  · intro f hroute hform
    exact exists_gives_of_runs_answer h hroute rfl rfl hform fun e hrun => exists_gives_of_runs_simulateBatch hrun

/-- A request for a simulation in the home directory of somebody unknown. -/
def unknownHome : Request where
  method := "POST"
  target := "/api/v1/simulations"
  body := (Text.encode "\x7b\"rule_id\": \"a\", \"workspace_path\": \"~nobody/x\", \"is_optin\": false\x7d").toOption.getD []

/-- A workspace in the home directory of somebody unknown is no directory, but this is not what is answered. -/
theorem run_answer_unknownHome :
    ((Rehearsal.run (({ loader := .ofRoot, home := "/home" } : Site).answer unknownHome) {}).1 matches
      .ok ⟨500, .text _⟩) = true := by
  decide +kernel

end LintPreview.Http.Site
