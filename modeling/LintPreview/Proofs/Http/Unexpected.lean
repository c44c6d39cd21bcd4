import LintPreview.Proofs.Http.Lookup
import LintPreview.Proofs.Remote.Unexpected

/-!
# Unexpected failures of simulations

* `ServiceAct.IsDocumented`, `Workplace.Meets`: the lint tool fails in its own ways only, and the network answers or tells
  that it does not.
* `Http.Order`: what a request wants to be simulated. `Http.Site.Unexpected`: the failures while it is handled that are
  not the services' own, each with what it comes from.
* `Http.Site.known_of_course`, `Http.Site.known_of_runs_simulateRemote`, `Http.Site.known_of_runs_simulateRules`: where a
  simulation or a batch stops, it stops for a failure that is known: one of the services' own, or an unexpected one.
* `Http.Site.failsFor_isOptin`, `Http.Site.failsFor_basePath`: so does a look at the catalog, or at the path of a baseline.
-/

namespace LintPreview

open Program (World)

namespace Program

variable {A : Type} {R : A → Type} {α σ : Type} {w w' : World A R σ} {s s' : σ} {events : List (Event A R)}

/-- A run stays one where more can be answered. -/
theorem Runs.mono {p : Program A R α} {a : α} (h : Runs w p s events a s')
    (hw : ∀ act s reply s', w act s reply s' → w' act s reply s') : Runs w' p s events a s' := by
  induction h with
  | done a s => exact .done a s
  | ask answers goesOn ih => exact .ask (hw _ _ _ _ answers) ih

/-- Each event among others is answered in the state that those before it have led to. -/
theorem World.Steps.exists_of_mem (h : w.Steps s events s') {act : A} {reply : R act} (hmem : ⟨act, reply⟩ ∈ events) :
    ∃ before s₁ s₂, before <+: events ∧ w.Steps s before s₁ ∧ w act s₁ reply s₂ := by
  induction h with
  | nil s => cases hmem
  | @cons act' reply' s s₁ s' events answers goesOn ih =>
    rcases List.mem_cons.mp hmem with heq | hmem
    · cases heq
      exact ⟨[], s, s₁, List.nil_prefix, .nil s, answers⟩
    · obtain ⟨before, s₂, s₃, hprefix, hsteps, hact⟩ := ih hmem
      exact ⟨⟨act', reply'⟩ :: before, s₂, s₃, (List.cons_prefix_cons).mpr ⟨rfl, hprefix⟩, .cons answers hsteps, hact⟩

end Program

/-! ### What is documented -/

/-- The lint tool gives a text, or fails in a way of its own. -/
def IsToolReply (reply : Except Stop Text) : Prop :=
  ∀ stop, reply = .error stop → ∃ f : Failure, stop = .failed f ∧ f.isOfTool = true

/-- A reply is one that the documentation of the lint tool, of the network, or of the files names. -/
def ServiceAct.IsDocumented : (act : ServiceAct) → act.Reply → Prop
  | .listRules, reply => IsToolReply reply
  | .version, reply => IsToolReply reply
  | .lint _ _, reply => IsToolReply reply
  | .awaitDetails, reply => ∃ place given, reply = .ok (place, given) ∧ ∀ f : Failure, given = .error f → f.isOfTool = true
  | .send _, reply => ∀ s, reply ≠ .error (.stopped s)
  | .receive _, reply => ∀ s, reply ≠ .error (.stopped s)
  | .drain _, reply => ∀ s, reply ≠ .error (.stopped s)
  | .makeScratch _, reply => ∀ f, reply = .error f → ∃ fault, f = .path fault
  | _, _ => True

/-- The documented answers to a service that nobody cancels. -/
def Workplace.Meets (flaky : Bool) : World ServiceAct ServiceAct.Reply Workplace :=
  fun act p reply p' => Workplace.Answers (Host.Answers flaky) act p reply p' ∧ act.IsDocumented reply

namespace Workplace

variable {flaky : Bool} {p p' : Workplace}

theorem isTotal_meets (flaky : Bool) : (Meets flaky).IsTotal := by
  intro act p
  cases act
  case listRules => exact ⟨.ok "", p, ⟨nofun, rfl⟩, nofun⟩
  case version => exact ⟨.ok "", p, ⟨nofun, rfl⟩, nofun⟩
  case lint => exact ⟨.ok "", p, ⟨nofun, rfl⟩, nofun⟩
  case awaitDetails => exact ⟨.ok (0, .ok ""), p, ⟨nofun, rfl⟩, 0, .ok "", rfl, nofun⟩
  case send => exact ⟨.error .timedOut, p, ⟨nofun, rfl⟩, nofun⟩
  case receive => exact ⟨.error .timedOut, p, ⟨nofun, rfl⟩, nofun⟩
  case drain => exact ⟨.error .timedOut, p, ⟨nofun, rfl⟩, nofun⟩
  case makeScratch =>
    refine ⟨.error (.path .embeddedNull), p, .inr ⟨⟨_, rfl⟩, rfl⟩, ?_⟩
    rintro f ⟨⟩
    exact ⟨_, rfl⟩
  all_goals
    obtain ⟨reply, p', h⟩ := isTotal_answers (Host.isTotal_answers flaky) _ p
    exact ⟨reply, p', h, trivial⟩

theorem isTelling_meets (flaky : Bool) : Remote.IsTelling (Meets flaky) where
  send _ _ _ _ h := h.2
  receive _ _ _ _ h := h.2
  drain _ _ _ _ h := h.2

/-- The machine may be so after some of the first events. -/
def Passes (flaky : Bool) (p : Workplace) (events : List ServiceEvent) (host : Host) : Prop :=
  ∃ before p₁, before <+: events ∧ (Meets flaky).Steps p before p₁ ∧ p₁.host = host

/-- Reading a baseline gives what its file holds, or fails for it. -/
theorem exists_of_readBaseline {base : Option Path} {reply : Except Stop Document}
    (h : Answers (Host.Answers flaky) (.errand (.readBaseline base)) p reply p') :
    (base = none ∧ reply = .ok emptyConfiguration) ∨
    ∃ path read, base = some path ∧ (read = p.host.files.readBytes path ∨ flaky = true ∧ ∃ fault, read = .error fault) ∧
      reply = ((baselineOfRead path read).mapError BaselineError.toFailure).mapError .failed := by
  obtain ⟨events, result, hruns, rfl, -⟩ := h
  cases base with
  | none =>
    obtain ⟨-, rfl, -⟩ := Program.runs_done_iff.mp hruns
    exact .inl ⟨rfl, rfl⟩
  | some path =>
    obtain ⟨read, host, events', ⟨-, hread⟩, hend, -⟩ := Program.runs_ask_iff.mp hruns
    obtain ⟨-, rfl, -⟩ := Program.runs_done_iff.mp hend
    exact .inr ⟨path, read, rfl, hread, rfl⟩

/-- Writing a text fails for its path only. -/
theorem exists_of_writeText {path : Path} {content : Text} {stop : Stop}
    (h : Answers (Host.Answers flaky) (.errand (.writeText path content)) p (.error stop) p') :
    ∃ fault, stop = .failed (.path fault) := by
  obtain ⟨events, result, hruns, hreply, -⟩ := h
  obtain ⟨written, host, events', -, hend, -⟩ := Program.runs_ask_iff.mp hruns
  obtain ⟨-, rfl, -⟩ := Program.runs_done_iff.mp hend
  cases written with
  | ok _ => cases hreply
  | error fault =>
    cases hreply
    exact ⟨fault, rfl⟩

end Workplace

namespace Http

open Workplace (Meets Passes)

/-! ### Orders -/

/-- What a request wants to be simulated: rules, in a workspace, on top of the configuration in a file or behind a URL. -/
structure Order where
  rules : List Text
  workspace : Text
  basePath : Option Text := none
  baseUrl : Option Text := none

end Http

/-- The order in a form. -/
def SimulationForm.order (f : SimulationForm) : Http.Order := ⟨[f.rule], f.workspace, filled? f.basePath, filled? f.baseUrl⟩

/-- The order in a form. -/
def BatchForm.order (f : BatchForm) : Http.Order := ⟨f.rules, f.workspace, filled? f.basePath, none⟩

namespace Http.Site

open Workplace (Meets Passes)

/-- The files in which the baseline of an order is read: the one that is named, or one that holds what has been fetched. -/
inductive ReadsBaseline (s : Site) (o : Order) : Path → Prop where
  | named {text : Text} {path : Path} (names : o.basePath = some text)
      (expands : (Path.ofString text).expandHome s.home = .ok path) : ReadsBaseline s o path
  | fetched {url : Text} (names : o.baseUrl = some url) (directory : Path) :
      ReadsBaseline s o (s.simulator.configIn directory)

/-- What is told while an order is handled. -/
inductive Tells (s : Site) (o : Order) : Notice → Prop where
  | loaded (count : Nat) (version : Option Text) : Tells s o (.loaded count version)
  | snapshotFailed (f : Failure) : Tells s o (.snapshotFailed s.loader.store.file.toString f.message)
  | sourceFailed (source : Text) (f : Failure) : Tells s o (.sourceFailed source f.message)
  | simulated {rule : Text} (mem : rule ∈ o.rules) (violations files : Nat) : Tells s o (.simulated rule violations files)
  | simulationFailed {rule : Text} (mem : rule ∈ o.rules) (f : Failure) : Tells s o (.simulationFailed rule f.message)

/-- The failures while an order is handled that are not the services' own. -/
inductive Unexpected (s : Site) (flaky : Bool) (p : Workplace) (o : Order) (events : List ServiceEvent) :
    Failure → Prop where
  /-- The path of the workspace or of the baseline names a home directory that there is not. -/
  | home {path : Text} {e : Path.HomeError} (names : path = o.workspace ∨ o.basePath = some path)
      (fails : (Path.ofString path).expandHome s.home = .error e) : Unexpected s flaky p o events (.home e)
  /-- The path of the workspace is too long to be looked up. -/
  | lookup {workspace : Path} {e : FileError} (expands : (Path.ofString o.workspace).expandHome s.home = .ok workspace)
      (fails : p.host.files.lookup workspace = .error (.file e)) (long : e.cause = .nameTooLong) :
      Unexpected s flaky p o events (.path (.file e))
  /-- The fetch of the baseline fails for an unexpected reason. -/
  | fetch {url : Text} {f : Failure} (names : o.baseUrl = some url) (unexpected : Remote.Unexpected url f) :
      Unexpected s flaky p o events f
  /-- The path of the baseline cannot be used at all. A flaky disk can claim that of any path. -/
  | path {path : Path} {host : Host} {fault : PathFault} (reads : s.ReadsBaseline o path)
      (passes : Passes flaky p events host) (fails : host.files.readBytes path = .error fault ∨ flaky = true)
      (noError : ∀ e, fault ≠ .file e) : Unexpected s flaky p o events (.path fault)
  /-- A value in the baseline has no meaning. -/
  | baseline {path : Path} {host : Host} {content : List UInt8} {text : List CodePoint} {fault : Yaml.Fault}
      (reads : s.ReadsBaseline o path) (passes : Passes flaky p events host)
      (holds : host.files.readBytes path = .ok content) (decodes : FileTree.textOf content = .ok text)
      (fails : Document.ofYaml text = .error fault) : Unexpected s flaky p o events (.yaml fault)
  /-- The baseline with a rule switched on cannot be written as a text. -/
  | overlay {rule : Text} {workspace : Path} {base : Option Path} {isOptin : Bool} {b d : Document} {fault : DumpFault}
      (mem : rule ∈ o.rules) (read : ⟨.errand (.readBaseline base), .ok b⟩ ∈ events)
      (enables : b.enable rule isOptin (some workspace.toString) s.simulator.settings.applyDefaultExclusions = .ok d)
      (fails : d.dumpFault? = some fault) : Unexpected s flaky p o events (.undumpable fault)
  /-- There is no scratch directory. -/
  | scratch {label : Text} {fault : PathFault} (asked : ⟨.makeScratch label, .error (.path fault)⟩ ∈ events) :
      Unexpected s flaky p o events (.path fault)
  /-- A configuration is not written. -/
  | write {path : Path} {text : Text} {fault : PathFault}
      (asked : ⟨.errand (.writeText path text), .error (.failed (.path fault))⟩ ∈ events) :
      Unexpected s flaky p o events (.path fault)
  /-- A number in a report has too many digits. -/
  | number {workspace config : Path} {report : Text} {digits : Nat} (asked : ⟨.lint workspace config, .ok report⟩ ∈ events)
      (fails : Json.read report = .error (.numberTooLong digits)) :
      Unexpected s flaky p o events (.literal (.tooLong digits))
  /-- Something in a report is nested too deep. -/
  | nesting {workspace config : Path} {report : Text} (asked : ⟨.lint workspace config, .ok report⟩ ∈ events)
      (fails : Json.read report = .error .tooDeep) : Unexpected s flaky p o events .jsonTooDeep
  /-- What is told cannot be shown. -/
  | unshown {n : Notice} {run : Text.LoneHalves} (tells : s.Tells o n) (lost : n.lost? = some run) :
      Unexpected s flaky p o events (.unencodable run.message)

/-- A failure is one of the services' own, or unexpected. -/
def Known (s : Site) (flaky : Bool) (p : Workplace) (o : Order) (events : List ServiceEvent) (f : Failure) : Prop :=
  f.isOwn = true ∨ s.Unexpected flaky p o events f

variable {s : Site} {flaky : Bool} {p p' : Workplace} {o : Order} {events works : List ServiceEvent}

/-! ### Simulations -/

/-- Notices that take the place of an end cannot all be shown. -/
theorem known_of_announcing {α : Type} {notices : List Notice} {a : α} {stop : Stop}
    (h : announcing notices (.ok a) = .error stop) (htells : ∀ n ∈ notices, s.Tells o n) :
    ∃ f, stop = .failed f ∧ s.Known flaky p o events f := by
  unfold announcing at h
  cases hlost : notices.findSome? Notice.lost? with
  | none =>
    rw [hlost] at h
    cases h
  | some run =>
    rw [hlost] at h
    cases h
    obtain ⟨n, hn, hrun⟩ := List.exists_of_findSome?_eq_some hlost
    exact ⟨_, rfl, .inr (.unshown (htells n hn) hrun)⟩

theorem known_of_toFailure {path : Path} {read : Except PathFault (List UInt8)} {e : BaselineError} {host : Host}
    (hreads : s.ReadsBaseline o path) (hpasses : Passes flaky p events host)
    (hread : read = host.files.readBytes path ∨ flaky = true ∧ ∃ fault, read = .error fault)
    (he : baselineOfRead path read = .error e) : s.Known flaky p o events e.toFailure := by
  unfold baselineOfRead at he
  split at he
  · cases he
    exact .inl rfl
  · rename_i fault hfile
    cases he
    refine .inr (.path hreads hpasses ?_ hfile)
    rcases hread with hread | ⟨hflaky, -⟩
    · exact .inl hread.symm
    · exact .inr hflaky
  · rename_i content
    have hcontent : host.files.readBytes path = .ok content := by
      rcases hread with hread | ⟨-, fault, hread⟩
      · exact hread.symm
      · cases hread
    split at he
    · cases he
      exact .inl rfl
    · rename_i text htext
      unfold baselineOfText at he
      split at he
      · cases he
        exact .inl rfl
      · rename_i fault hfault
        cases he
        exact .inr (.baseline hreads hpasses hcontent htext hfault)
      · cases he
      · split at he
        · cases he
          exact .inl rfl
        · cases he
      · cases he
        exact .inl rfl

theorem isOwn_of_isOfTool {f : Failure} (h : f.isOfTool = true) : f.isOwn = true := by
  cases f <;> first | rfl | cases h

section

variable {rule : Text} {workspace : Path} {base : Option Path} {isOptin : Bool} {stop : Stop}

/-- What is read as a baseline is a configuration. -/
theorem isConfiguration_of_answers {b : Document} {p₁ p₂ : Workplace}
    (h : Workplace.Answers (Host.Answers flaky) (.errand (.readBaseline base)) p₁ (.ok b) p₂) : b.IsConfiguration := by
  rcases Workplace.exists_of_readBaseline h with ⟨-, hb⟩ | ⟨path, read, -, -, hreply⟩
  · cases hb
    exact Document.emptyConfiguration_isConfiguration
  · exact Document.isConfiguration_of_baselineOfRead (eq_ok_of_mapError (eq_ok_of_mapError hreply.symm))

theorem known_of_makeScratch (hsteps : (Meets flaky).Steps p events p') {label : Text} {f : Failure}
    (hasked : ⟨.makeScratch label, .error f⟩ ∈ events) : s.Known flaky p o events f := by
  obtain ⟨-, p₁, p₂, -, -, -, hdocumented⟩ := hsteps.exists_of_mem hasked
  obtain ⟨fault, rfl⟩ := hdocumented f rfl
  exact .inr (.scratch hasked)

theorem known_of_writeText (hsteps : (Meets flaky).Steps p events p') {path : Path} {text : Text}
    (hasked : ⟨.errand (.writeText path text), .error stop⟩ ∈ events) :
    ∃ f, stop = .failed f ∧ s.Known flaky p o events f := by
  obtain ⟨-, p₁, p₂, -, -, hanswers, -⟩ := hsteps.exists_of_mem hasked
  obtain ⟨fault, rfl⟩ := Workplace.exists_of_writeText hanswers
  exact ⟨_, rfl, .inr (.write hasked)⟩

/-- Where the linting for an order stops, it stops for a failure that is known. -/
theorem known_of_lints {b d : Document} (h : s.simulator.Lints workspace d works (.error stop))
    (hworks : ∀ event ∈ works, event ∈ events) (hsteps : (Meets flaky).Steps p events p') (hrule : rule ∈ o.rules)
    (hread : ⟨.errand (.readBaseline base), .ok b⟩ ∈ events)
    (henables : b.enable rule isOptin (some workspace.toString) s.simulator.settings.applyDefaultExclusions = .ok d) :
    ∃ f, stop = .failed f ∧ s.Known flaky p o events f := by
  cases h with
  | unmade f => exact ⟨f, rfl, known_of_makeScratch hsteps (hworks _ List.mem_cons_self)⟩
  | undumped directory hfault =>
    exact ⟨_, rfl, .inr (.overlay hrule hread henables hfault)⟩
  | unwritten directory _ whole =>
    exact known_of_writeText hsteps (hworks _ (List.mem_cons_of_mem _ List.mem_cons_self))
  | called directory _ whole =>
    have hasked := hworks _ (List.mem_cons_of_mem _ (List.mem_cons_of_mem _ List.mem_cons_self))
    obtain ⟨-, p₁, p₂, -, -, -, hdocumented⟩ := hsteps.exists_of_mem hasked
    obtain ⟨f, rfl, htool⟩ := hdocumented stop rfl
    exact ⟨f, rfl, .inl (isOwn_of_isOfTool htool)⟩

/-- The linting for an order asks the lint tool, where it gives a report. -/
theorem mem_of_lints {d : Document} {report : Text} (h : s.simulator.Lints workspace d works (.ok report)) :
    ∃ config, ⟨.lint workspace config, .ok report⟩ ∈ works := by
  cases h with
  | called directory _ whole =>
    exact ⟨_, List.mem_cons_of_mem _ (List.mem_cons_of_mem _ List.mem_cons_self)⟩

theorem known_of_violationsOf {config : Path} {report : Text} {f : Failure}
    (hlint : ⟨.lint workspace config, .ok report⟩ ∈ events) (h : Simulator.violationsOf rule workspace report = .error f) :
    s.Known flaky p o events f := by
  unfold Simulator.violationsOf readViolations at h
  split at h
  · cases h
  · split at h
    · cases h
      exact .inl rfl
    · rename_i digits hread
      cases h
      exact .inr (.number hlint hread)
    · rename_i hread
      cases h
      exact .inr (.nesting hlint hread)
    · cases h
    · cases h
      exact .inl rfl

/-- Where a simulation of an order stops, it stops for a failure that is known. -/
theorem known_of_course (h : s.simulator.Course rule workspace base isOptin works (.error stop))
    (hworks : ∀ event ∈ works, event ∈ events) (hsteps : (Meets flaky).Steps p events p') (hrule : rule ∈ o.rules)
    (hbase : ∀ path, base = some path → s.ReadsBaseline o path) :
    ∃ f, stop = .failed f ∧ s.Known flaky p o events f := by
  generalize he : (.error stop : Except Stop SimulationResult) = e at h
  cases h with
  | rejected stop' =>
    cases he
    obtain ⟨before, p₁, p₂, hbefore, hreached, hanswers, -⟩ := hsteps.exists_of_mem (hworks _ List.mem_cons_self)
    rcases Workplace.exists_of_readBaseline hanswers with ⟨-, hreply⟩ | ⟨path, read, hpath, hread, hreply⟩
    · cases hreply
    · cases he : baselineOfRead path read with
      | ok b =>
        rw [he] at hreply
        cases hreply
      | error why =>
        rw [he] at hreply
        cases hreply
        exact ⟨_, rfl, known_of_toFailure (hbase path hpath) ⟨before, p₁, hbefore, hreached, rfl⟩ hread he⟩
  | unlisted b fails =>
    obtain ⟨-, p₁, p₂, -, -, hanswers, -⟩ := hsteps.exists_of_mem (hworks _ List.mem_cons_self)
    obtain ⟨d, hd, -⟩ := Document.enable_switchedOn (isConfiguration_of_answers hanswers) rule isOptin
      (some workspace.toString) s.simulator.settings.applyDefaultExclusions
    rw [hd] at fails
    cases fails
  | unreported b enables lints =>
    cases he
    exact known_of_lints lints (fun event hevent => hworks event (List.mem_cons_of_mem _ hevent)) hsteps hrule
      (hworks _ List.mem_cons_self) enables
  | @unreadable b d works report f enables lints fails =>
    cases he
    obtain ⟨config, hlint⟩ := mem_of_lints lints
    exact ⟨f, rfl, known_of_violationsOf (hworks _ (List.mem_cons_of_mem _ hlint)) fails⟩
  | reported b enables lints reads named =>
    refine known_of_announcing he.symm fun n hn => ?_
    obtain rfl := List.mem_singleton.mp hn
    exact .simulated hrule _ _

/-- Where a simulation of an order on top of a fetched configuration stops, it stops for a failure that is known. -/
theorem known_of_runs_simulateRemote {q q' : Workplace} {own : List ServiceEvent} {url : Text}
    (h : Job.Runs (Meets flaky) (s.simulator.simulateRemote rule workspace url isOptin) q own (.error stop) q')
    (hown : ∀ event ∈ own, event ∈ events) (hsteps : (Meets flaky).Steps p events p') (hrule : rule ∈ o.rules)
    (hurl : o.baseUrl = some url) : ∃ f, stop = .failed f ∧ s.Known flaky p o events f := by
  obtain ⟨fetched, q₁, events₁, events₂, hfetch, rfl, -, hcourse⟩ := Simulator.remoteCourse_of_runs h
  have hworks : ∀ event ∈ Simulator.worksOf events₂, event ∈ events :=
    fun event hevent => hown event (List.mem_append_right _ (List.mem_of_mem_filter hevent))
  generalize hends : (.error stop : Except Stop SimulationResult) = e at hcourse
  generalize Simulator.worksOf events₂ = works at hworks hcourse
  cases hcourse with
  | unfetched stop' =>
    cases hends
    obtain ⟨f, rfl, hf⟩ := Remote.failsFor_fetchConfig (Workplace.isTelling_meets flaky) _ _ url _ _ _ _ hfetch
    exact ⟨f, rfl, hf.imp id (.fetch hurl)⟩
  | unmade text f =>
    cases hends
    exact ⟨f, rfl, known_of_makeScratch hsteps (hworks _ List.mem_cons_self)⟩
  | unwritten text directory stop' =>
    cases hends
    exact known_of_writeText hsteps (hworks _ (List.mem_cons_of_mem _ List.mem_cons_self))
  | simulated text directory course =>
    cases hends
    refine known_of_course course (fun event hevent => ?_) hsteps hrule ?_
    · exact hworks event (List.mem_cons_of_mem _ (List.mem_cons_of_mem _ (List.mem_append_left _ hevent)))
    · rintro path ⟨⟩
      exact .fetched hurl directory

/-- Where a batch of an order stops, it stops for a failure that is known. -/
theorem known_of_runs_simulateRules {q q' : Workplace} {own : List ServiceEvent} {b : Simulator.Batch}
    (h : Job.Runs (Meets flaky) (s.simulator.simulateRules b o.rules) q own (.error stop) q')
    (hown : ∀ event ∈ own, event ∈ events) (hsteps : (Meets flaky).Steps p events p')
    (hbase : ∀ path, b.base = some path → s.ReadsBaseline o path) : ∃ f, stop = .failed f ∧ s.Known flaky p o events f := by
  obtain ⟨start, turns, behind, q₁, q₂, -, htakes, rfl, hends⟩ := Simulator.exists_of_runs_simulateRules h
  cases hends with
  | stopped stops =>
    obtain ⟨t, ht, hrule, hstop⟩ := stops.exists_mem
    obtain ⟨q₃, q₄, hrun⟩ := htakes.exists_runs t ht
    have hknown : ∀ stop, t.ended = .error stop → ∃ f, stop = .failed f ∧ s.Known flaky p o events f := by
      intro stop hended
      rw [hended] at hrun
      refine known_of_course (Simulator.course_of_runs hrun) (fun event hevent => hown event ?_) hsteps hrule hbase
      exact List.mem_cons_of_mem _ (List.mem_append_left _ (b.mem_eventsOf ht (List.mem_of_mem_filter hevent)))
    unfold Turn.stop? at hstop
    split at hstop
    · cases hstop
    · rename_i f hended
      split at hstop
      · obtain ⟨run, hlost, rfl⟩ := Option.map_eq_some_iff.mp hstop
        exact ⟨_, rfl, .inr (.unshown (.simulationFailed hrule f) hlost)⟩
      · cases hstop
        exact hknown _ hended
    · rename_i hended
      cases hstop
      exact hknown _ hended

end

/-! ### The catalog, and the paths of files -/

/-- Where loading the catalog stops, it stops for a failure that is known. -/
theorem failsFor_loadRules : s.loader.loadRules.FailsFor (Meets flaky) (s.Known flaky p o events) := by
  intro q own stop q' h
  obtain ⟨live, kept, hends⟩ := Loader.loadEnds_of_runs (h.mono fun _ _ _ _ hact => hact.1)
  generalize he : (.error stop : Except Stop (List Rule)) = e at hends
  cases hends with
  | @fetched rules version kept p' fetches keeps catalog =>
    refine known_of_announcing he.symm fun n hn => ?_
    rcases List.mem_cons.mp hn with rfl | hn
    · exact .loaded _ _
    · rcases kept with _ | _ | snapshot
      · cases hn
      · obtain rfl := List.mem_singleton.mp hn
        exact .snapshotFailed _
      · cases hn
  | recalled => cases he
  | unavailable =>
    cases he
    exact ⟨_, rfl, .inl rfl⟩
  | @unannounced live run p' fetches lost catalog files =>
    cases he
    refine ⟨_, rfl, .inr ?_⟩
    rcases lost with ⟨-, hlost⟩ | ⟨-, cache, -, -, -, hlost⟩
    · exact .unshown (.sourceFailed _ live) hlost
    · exact .unshown (.sourceFailed _ cache) hlost

theorem failsFor_isOptin (id : Text) (said : Option Bool) :
    (s.isOptin id said).FailsFor (Meets flaky) (s.Known flaky p o events) := by
  cases said with
  | some b => exact Job.failsFor_pure b
  | none =>
    have hfind : (findRule? id).FailsFor (Meets flaky) (s.Known flaky p o events) :=
      Job.failsFor_ask_bind .rules (fun rules => rules) fun _ _ _ _ => Job.failsFor_pure _
    refine Job.FailsFor.bind ?_ fun _ => hfind.bind fun _ => Job.failsFor_pure _
    refine Job.failsFor_ask_bind .rules (fun rules => rules) fun _ _ _ _ => ?_
    split
    · exact failsFor_loadRules.bind fun _ => Job.failsFor_pure ()
    · exact Job.failsFor_pure ()

theorem failsFor_optins (ids : List Text) : (s.optins ids).FailsFor (Meets flaky) (s.Known flaky p o events) := by
  induction ids with
  | nil => exact Job.failsFor_pure []
  | cons id ids ih => exact (failsFor_isOptin id none).bind fun _ => ih.bind fun _ => Job.failsFor_pure _

theorem failsFor_basePath {path : Option Text} (h : o.basePath = filled? path) :
    (s.basePath path).FailsFor (Meets flaky) (s.Known flaky p o events) := by
  unfold basePath
  split
  · rename_i text htext
    refine Job.failsFor_ofResult_bind (fun f hf => ?_) fun _ _ => Job.failsFor_pure _
    cases hexpand : (Path.ofString text).expandHome s.home with
    | ok expanded =>
      rw [hexpand] at hf
      cases hf
    | error e =>
      rw [hexpand] at hf
      cases hf
      exact .inr (.home (.inr (h.trans htext)) hexpand)
  · exact Job.failsFor_pure none

/-- The path of a baseline is the one that is named. -/
theorem exists_of_runs_basePath {σ : Type} {w : World ServiceAct ServiceAct.Reply σ} {q q' : σ} {own : List ServiceEvent}
    {path : Option Text} {expanded : Path} (h : Job.Runs w (s.basePath path) q own (.ok (some expanded)) q') :
    ∃ text, filled? path = some text ∧ (Path.ofString text).expandHome s.home = .ok expanded := by
  unfold basePath at h
  split at h
  · rename_i text htext
    rcases Job.runs_ofResult_bind_iff.mp h with ⟨found, hfound, hend⟩ | ⟨failure, -, -, he, -⟩
    · obtain ⟨-, he, -⟩ := Job.runs_pure_iff.mp hend
      cases he
      exact ⟨text, htext, eq_ok_of_mapError hfound⟩
    · cases he
  · obtain ⟨-, he, -⟩ := Job.runs_pure_iff.mp h
    cases he

end Http.Site

end LintPreview
