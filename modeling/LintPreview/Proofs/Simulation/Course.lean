import LintPreview.Proofs.Catalog.Load
import LintPreview.Proofs.Remote.Download
import LintPreview.Proofs.Run.Moments
import LintPreview.Simulation.Simulate

/-!
# The course of a simulation

* `Simulator.worksOf`: the errands among events, the lint calls, and where scratch directories are made and removed.
* `Simulator.runs_inScratch_iff`: a scratch directory is made before a job and removed after it, however the job ends.
* `Simulator.Lints`, `Simulator.Course`, `Simulator.RemoteCourse`: how linting under a configuration, a simulation, and
  one on top of a fetched configuration can go: their works, and how they end for them.
* `Simulator.course_of_runs`, `Simulator.remoteCourse_of_runs`: whatever the surroundings, every run goes so.
-/

namespace LintPreview

open Program (World)

variable {σ : Type} {w : World ServiceAct ServiceAct.Reply σ} {q q' : σ} {events : List ServiceEvent} {α β : Type}

/-! ### Works -/

/-- The acts that change something outside the service. -/
def ServiceAct.isWork : ServiceAct → Bool
  | .errand _ | .makeScratch _ | .removeTree _ | .lint _ _ => true
  | _ => false

/-- The act is no work. -/
abbrev ServiceAct.IsIdle (act : ServiceAct) : Prop := act.isWork = false

/-- The works among events. -/
def Simulator.worksOf (events : List ServiceEvent) : List ServiceEvent := events.filter (·.1.isWork)

theorem Simulator.worksOf_append (events₁ events₂ : List ServiceEvent) :
    worksOf (events₁ ++ events₂) = worksOf events₁ ++ worksOf events₂ :=
  List.filter_append _ _

theorem Simulator.worksOf_cons_of_isWork {event : ServiceEvent} (h : event.1.isWork = true)
    (events : List ServiceEvent) : worksOf (event :: events) = event :: worksOf events :=
  List.filter_cons_of_pos h

theorem Simulator.worksOf_clock_cons (n : Nat) (events : List ServiceEvent) :
    worksOf (⟨.clock, n⟩ :: events) = worksOf events :=
  rfl

theorem Simulator.worksOf_eq_nil (h : ∀ event ∈ events, event.1.IsIdle) : worksOf events = [] := by
  rw [worksOf, List.filter_eq_nil_iff]
  intro event hevent
  rw [h event hevent]
  exact Bool.false_ne_true

/-- A job that asks for no work does none. -/
theorem Job.OnlyAsks.worksOf_eq_nil {job : Job α} {e : Except Stop α}
    (hjob : job.OnlyAsks ServiceAct.IsIdle) (h : Job.Runs w job q events e q') :
    Simulator.worksOf events = [] :=
  Simulator.worksOf_eq_nil (hjob.of_mem h)

/-- An act that only takes notes. -/
def ServiceAct.IsNote (act : ServiceAct) : Prop := act = .clock ∨ ∃ record, act = .log record

theorem ServiceAct.IsNote.isIdle {act : ServiceAct} (h : act.IsNote) : act.IsIdle := by
  rcases h with rfl | ⟨record, rfl⟩ <;> rfl

/-! ### Jobs with something before and after them -/

namespace Job

theorem runs_ensuring_iff {job : Job α} {act : ServiceAct} {e : Except Stop α} :
    Runs w (job.ensuring (ExceptT.mk (.ask act fun _ => .done (.ok ())))) q events e q' ↔
      ∃ q₁ events' reply, Runs w job q events' e q₁ ∧ w act q₁ reply q' ∧ events = events' ++ [⟨act, reply⟩] := by
  constructor
  · intro h
    obtain ⟨e', q₁, events₁, events₂, hjob, hrest, rfl⟩ := runs_outcome_bind_iff.mp h
    obtain ⟨reply, q₂, events₃, hact, hend, rfl⟩ := (runs_ask_bind_iff act fun _ => ()).mp hrest
    obtain ⟨rfl, rfl, rfl⟩ := runs_ofEnd_iff.mp hend
    exact ⟨q₁, events₁, reply, hjob, hact, rfl⟩
  · rintro ⟨q₁, events', reply, hjob, hact, rfl⟩
    refine runs_outcome_bind_iff.mpr ⟨e, q₁, events', _, hjob, ?_, rfl⟩
    exact (runs_ask_bind_iff act fun _ => ()).mpr ⟨reply, q', [], hact, runs_ofEnd_iff.mpr ⟨rfl, rfl, rfl⟩, rfl⟩

theorem runs_ofResult_iff {x : Except Failure α} {e : Except Stop α} :
    Runs w (ofResult x) q events e q' ↔ events = [] ∧ e = x.mapError .failed ∧ q' = q := by
  cases x with
  | ok a => exact runs_pure_iff
  | error f => exact runs_fail_iff

theorem runs_ofResult_bind_iff {x : Except Failure α} {f : α → Job β} {e : Except Stop β} :
    Runs w (ofResult x >>= f) q events e q' ↔
      (∃ a, x = .ok a ∧ Runs w (f a) q events e q') ∨
      (∃ failure, x = .error failure ∧ events = [] ∧ e = .error (.failed failure) ∧ q' = q) := by
  cases x with
  | ok a =>
    constructor
    · intro h
      exact .inl ⟨a, rfl, h⟩
    · rintro (⟨_, ⟨⟩, h⟩ | ⟨_, ⟨⟩, -⟩)
      exact h
  | error failure =>
    constructor
    · intro h
      exact .inr ⟨failure, rfl, runs_fail_iff.mp h⟩
    · rintro (⟨_, ⟨⟩, -⟩ | ⟨_, ⟨⟩, h⟩)
      exact runs_fail_iff.mpr h

/-- An act whose reply is the end of the job, where the job goes on with it. -/
theorem runs_reply_bind_iff {act : ServiceAct} {toEnd : act.Reply → Except Stop α} {f : α → Job β}
    {e : Except Stop β} :
    Runs w (ExceptT.mk (.ask act fun reply => .done (toEnd reply)) >>= f) q events e q' ↔
      ∃ reply q₁ events', w act q reply q₁ ∧ events = ⟨act, reply⟩ :: events' ∧
        ((∃ a, toEnd reply = .ok a ∧ Runs w (f a) q₁ events' e q') ∨
          (∃ stop, toEnd reply = .error stop ∧ events' = [] ∧ e = .error stop ∧ q' = q₁)) :=
  Program.runs_stoppable_reply_bind_iff

/-- A job that always stops ends whatever would go on behind it. -/
theorem eq_of_runs_bind {job : Job α} {f : α → Job β} {stop : Stop} {e : Except Stop β}
    (hjob : ∀ events (e : Except Stop α) q', Runs w job q events e q' → e = .error stop)
    (h : Runs w (job >>= f) q events e q') : e = .error stop := by
  rcases runs_bind_iff.mp h with ⟨a, q₁, events₁, events₂, hfirst, -, -⟩ | ⟨stop', hfirst, rfl⟩
  · cases hjob _ _ _ hfirst
  · cases hjob _ _ _ hfirst
    rfl

/-- A record that clashes with nothing is written, or does not count. -/
theorem note_of_runs_emit {limit : Int} {record : LogRecord} (hclash : record.clash? = none)
    {e : Except Stop Unit} (h : Runs w (emit limit record) q events e q') :
    e = .ok () ∧ ∀ event ∈ events, event.1.IsNote := by
  refine ⟨?_, (onlyAsks_emit (fun record => .inr ⟨record, rfl⟩) limit record).of_mem h⟩
  unfold emit at h
  split at h
  · exact (runs_pure_iff.mp h).2.1
  · rw [hclash] at h
    obtain ⟨reply, q₁, events', -, hend, -⟩ := Program.runs_ask_iff.mp h
    exact (Program.runs_done_iff.mp hend).2.1

/-- Around an operation that is logged only notes are taken, if no record clashes. -/
theorem exists_between_of_runs_logged {threshold : LogLevel} {operation : Text} {context : List (Text × Json)}
    {job : Job α} {e : Except Stop α} (h : Runs w (job.logged threshold operation context) q events e q')
    (hstart : (LogRecord.mk .info ("🚀 Starting " ++ operation)
      (collectEntries (("operation", .text operation) :: context)) false).clash? = none)
    (hstop : ∀ (took : Nat) (end₁ : Except Stop α), (withLatency took
      (endRecord operation (collectEntries (("operation", .text operation) :: context)) took end₁)).clash? = none) :
    ∃ q₁ q₂ before events' after, Runs w job q₁ events' e q₂ ∧ events = before ++ events' ++ after ∧
      ∀ event ∈ before ++ after, event.1.IsNote := by
  unfold logged loggedFrom at h
  obtain ⟨start, q₁, events₁, -, hrun, rfl⟩ := (runs_ask_bind_iff .clock id).mp h
  rcases runs_bind_iff.mp hrun with ⟨⟨⟩, q₂, events₂, events₃, hbefore, hbody, rfl⟩ | ⟨stop, hbefore, -⟩
  · obtain ⟨end₁, q₃, events₄, events₅, hjob, hrest, rfl⟩ := runs_outcome_bind_iff.mp hbody
    obtain ⟨stop, q₄, events₆, -, hlast, rfl⟩ := (runs_ask_bind_iff .clock id).mp hrest
    rcases runs_bind_iff.mp hlast with ⟨⟨⟩, q₅, events₇, events₈, hafter, hend, rfl⟩ | ⟨stop', hafter, -⟩
    · obtain ⟨rfl, rfl, rfl⟩ := runs_ofEnd_iff.mp hend
      refine ⟨q₂, q₃, ⟨.clock, start⟩ :: events₂, events₄, ⟨.clock, stop⟩ :: events₇, hjob, by simp, ?_⟩
      intro event hevent
      rw [List.cons_append, List.mem_cons, List.mem_append, List.mem_cons] at hevent
      rcases hevent with rfl | hevent | rfl | hevent
      · exact .inl rfl
      · exact (note_of_runs_emit hstart hbefore).2 event hevent
      · exact .inl rfl
      · exact (note_of_runs_emit (hstop _ _) hafter).2 event hevent
    · cases (note_of_runs_emit (hstop _ _) hafter).1
  · cases (note_of_runs_emit hstart hbefore).1

/-- Logging an operation changes neither its works nor its end, if no record clashes. -/
theorem exists_of_runs_logged {threshold : LogLevel} {operation : Text} {context : List (Text × Json)} {job : Job α}
    {e : Except Stop α} (h : Runs w (job.logged threshold operation context) q events e q')
    (hstart : (LogRecord.mk .info ("🚀 Starting " ++ operation)
      (collectEntries (("operation", .text operation) :: context)) false).clash? = none)
    (hstop : ∀ (took : Nat) (end₁ : Except Stop α), (withLatency took
      (endRecord operation (collectEntries (("operation", .text operation) :: context)) took end₁)).clash? = none) :
    ∃ q₁ q₂ events', Runs w job q₁ events' e q₂ ∧ Simulator.worksOf events = Simulator.worksOf events' := by
  obtain ⟨q₁, q₂, before, events', after, hjob, rfl, hnotes⟩ := exists_between_of_runs_logged h hstart hstop
  have hbefore : Simulator.worksOf before = [] :=
    Simulator.worksOf_eq_nil fun event hevent => (hnotes event (List.mem_append_left after hevent)).isIdle
  have hafter : Simulator.worksOf after = [] :=
    Simulator.worksOf_eq_nil fun event hevent => (hnotes event (List.mem_append_right before hevent)).isIdle
  refine ⟨q₁, q₂, events', hjob, ?_⟩
  rw [Simulator.worksOf_append, Simulator.worksOf_append, hbefore, hafter, List.nil_append, List.append_nil]

end Job

namespace Simulator

/-- A scratch directory is made before a job and removed after it. -/
theorem runs_inScratch_iff {s : Simulator} {job : Path → Job α} {e : Except Stop α} :
    Job.Runs w (s.inScratch job) q events e q' ↔
      (∃ f, w (.makeScratch s.settings.scratchPrefix) q (.error f) q' ∧
        events = [⟨.makeScratch s.settings.scratchPrefix, .error f⟩] ∧ e = .error (.failed f)) ∨
      (∃ directory q₁ q₂ events', w (.makeScratch s.settings.scratchPrefix) q (.ok directory) q₁ ∧
        Job.Runs w (job directory) q₁ events' e q₂ ∧ w (.removeTree directory) q₂ () q' ∧
        events = ⟨.makeScratch s.settings.scratchPrefix, .ok directory⟩ :: (events' ++ [⟨.removeTree directory, ()⟩])) := by
  unfold inScratch
  rw [Job.makeScratch, Job.runs_reply_bind_iff]
  constructor
  · rintro ⟨reply, q₁, events₁, hmake, rfl, ⟨directory, hreply, hrest⟩ | ⟨stop, hreply, rfl, rfl, rfl⟩⟩
    · cases eq_ok_of_mapError hreply
      obtain ⟨q₂, events₂, ⟨⟩, hjob, hremove, rfl⟩ := Job.runs_ensuring_iff.mp hrest
      exact .inr ⟨directory, q₁, q₂, events₂, hmake, hjob, hremove, rfl⟩
    · cases reply with
      | ok directory => cases hreply
      | error f =>
        cases hreply
        exact .inl ⟨f, hmake, rfl, rfl⟩
  · rintro (⟨f, hmake, rfl, rfl⟩ | ⟨directory, q₁, q₂, events', hmake, hjob, hremove, rfl⟩)
    · exact ⟨.error f, q', [], hmake, rfl, .inr ⟨_, rfl, rfl, rfl, rfl⟩⟩
    · refine ⟨.ok directory, q₁, _, hmake, rfl, .inl ⟨directory, rfl, ?_⟩⟩
      exact Job.runs_ensuring_iff.mpr ⟨q₂, events', (), hjob, hremove, rfl⟩

/-! ### Linting under a configuration -/

/-- How linting a workspace under a configuration can go: its events, and its end for them. -/
inductive Lints (s : Simulator) (workspace : Path) (d : Document) : List ServiceEvent → Except Stop Text → Prop where
  /-- There is no scratch directory. -/
  | unmade (f : Failure) :
      Lints s workspace d [⟨.makeScratch s.settings.scratchPrefix, .error f⟩] (.error (.failed f))
  /-- The configuration has no text. -/
  | undumped (directory : Path) {fault : DumpFault} (lost : d.dumpFault? = some fault) :
      Lints s workspace d
        [⟨.makeScratch s.settings.scratchPrefix, .ok directory⟩, ⟨.removeTree directory, ()⟩]
        (.error (.failed (.undumpable fault)))
  /-- Its text is not written. -/
  | unwritten (directory : Path) (stop : Stop) (whole : d.dumpFault? = none) :
      Lints s workspace d
        [⟨.makeScratch s.settings.scratchPrefix, .ok directory⟩,
          ⟨.errand (.writeText (s.configIn directory) d.toYaml), .error stop⟩, ⟨.removeTree directory, ()⟩]
        (.error stop)
  /-- The lint tool is called, and how the call ends is how the linting ends. -/
  | called (directory : Path) (reply : Except Stop Text) (whole : d.dumpFault? = none) :
      Lints s workspace d
        [⟨.makeScratch s.settings.scratchPrefix, .ok directory⟩,
          ⟨.errand (.writeText (s.configIn directory) d.toYaml), .ok ()⟩,
          ⟨.lint workspace (s.configIn directory), reply⟩, ⟨.removeTree directory, ()⟩]
        reply

theorem textOf_eq {d : Document} :
    textOf d = match d.dumpFault? with
      | some fault => .error (.undumpable fault)
      | none => .ok d.toYaml :=
  rfl

theorem lints_of_runs {s : Simulator} {workspace : Path} {d : Document} {e : Except Stop Text}
    (h : Job.Runs w (s.lintUnder workspace d) q events e q') : s.Lints workspace d events e := by
  rcases runs_inScratch_iff.mp h with ⟨f, -, rfl, rfl⟩ | ⟨directory, q₁, q₂, events', -, hjob, -, rfl⟩
  · exact .unmade f
  · rcases Job.runs_ofResult_bind_iff.mp hjob with ⟨text, htext, hjob⟩ | ⟨f, hf, rfl, rfl, rfl⟩
    · have hwhole : d.dumpFault? = none ∧ text = d.toYaml := by
        rw [textOf_eq] at htext
        split at htext
        · cases htext
        · rename_i hnone
          cases htext
          exact ⟨hnone, rfl⟩
      obtain ⟨hnone, rfl⟩ := hwhole
      obtain ⟨written, q₃, events₁, -, rfl, ⟨-, rfl, hlint⟩ | ⟨stop, rfl, rfl, rfl, rfl⟩⟩ :=
        Job.runs_reply_bind_iff.mp hjob
      · obtain ⟨report, q₄, events₂, -, hend, rfl⟩ := Program.runs_ask_iff.mp hlint
        obtain ⟨rfl, rfl, rfl⟩ := Program.runs_done_iff.mp hend
        exact .called directory _ hnone
      · exact .unwritten directory stop hnone
    · rw [textOf_eq] at hf
      split at hf
      · rename_i fault hfault
        cases hf
        exact .undumped directory hfault
      · cases hf

theorem Lints.worksOf_eq {s : Simulator} {workspace : Path} {d : Document} {e : Except Stop Text}
    (h : s.Lints workspace d events e) : worksOf events = events := by
  cases h <;> rfl

/-! ### Simulations -/

/-- How a simulation can go: its works, and its end for them. -/
inductive Course (s : Simulator) (rule : Text) (workspace : Path) (base : Option Path) (isOptin : Bool) :
    List ServiceEvent → Except Stop SimulationResult → Prop where
  /-- There is no baseline. -/
  | rejected (stop : Stop) : Course s rule workspace base isOptin [⟨.errand (.readBaseline base), .error stop⟩] (.error stop)
  /-- The rule cannot be switched on. -/
  | unlisted (b : Document) {value : NotListed}
      (fails : b.enable rule isOptin (some workspace.toString) s.settings.applyDefaultExclusions = .error value) :
      Course s rule workspace base isOptin [⟨.errand (.readBaseline base), .ok b⟩] (.error (.failed (.notListed value)))
  /-- The linting gives no report. -/
  | unreported (b : Document) {d : Document} {works : List ServiceEvent} {stop : Stop}
      (enables : b.enable rule isOptin (some workspace.toString) s.settings.applyDefaultExclusions = .ok d)
      (lints : s.Lints workspace d works (.error stop)) :
      Course s rule workspace base isOptin (⟨.errand (.readBaseline base), .ok b⟩ :: works) (.error stop)
  /-- The report gives no violations. -/
  | unreadable (b : Document) {d : Document} {works : List ServiceEvent} {report : Text} {f : Failure}
      (enables : b.enable rule isOptin (some workspace.toString) s.settings.applyDefaultExclusions = .ok d)
      (lints : s.Lints workspace d works (.ok report)) (fails : violationsOf rule workspace report = .error f) :
      Course s rule workspace base isOptin (⟨.errand (.readBaseline base), .ok b⟩ :: works) (.error (.failed f))
  /-- The violations are the result, if it can be shown. -/
  | reported (b : Document) {d : Document} {works : List ServiceEvent} {report : Text} {result : SimulationResult}
      (enables : b.enable rule isOptin (some workspace.toString) s.settings.applyDefaultExclusions = .ok d)
      (lints : s.Lints workspace d works (.ok report))
      (reads : violationsOf rule workspace report = .ok result.violations) (named : result.ruleId = rule) :
      Course s rule workspace base isOptin (⟨.errand (.readBaseline base), .ok b⟩ :: works)
        (announcing [.simulated rule result.violations.length result.affectedFiles.length] (.ok result))

/-- The records of a simulation have keys of their own. -/
theorem clash?_simulation {rule workspace : Text} (took : Nat) (e : Except Stop α) :
    (Job.withLatency took (Job.endRecord "rule_simulation" (collectEntries
      [("operation", .text "rule_simulation"), ("rule_id", .text rule), ("workspace", .text workspace)])
      took e)).clash? = none := by
  cases e with
  | ok a =>
    show (["operation", "rule_id", "workspace", "latency_ms"] : List Text).find? LogRecord.reservedKeys.contains = none
    decide
  | error stop =>
    cases stop with
    | failed f =>
      show (["operation", "rule_id", "workspace", "error", "latency_ms"] : List Text).find?
        LogRecord.reservedKeys.contains = none
      decide
    | cancelled =>
      show (["operation", "rule_id", "workspace", "latency_ms"] : List Text).find? LogRecord.reservedKeys.contains = none
      decide

variable {s : Simulator} {rule : Text} {workspace : Path} {isOptin : Bool} {e : Except Stop SimulationResult}

/-- Linting and reading the report go one of three ways. The clock around them is no work. -/
theorem measured_of_runs {d : Document}
    (h : Job.Runs w (do
      let start ← Job.clock
      let report ← s.lintUnder workspace d
      let violations ← Job.ofResult (violationsOf rule workspace report)
      let stop ← Job.clock
      return ({ ruleId := rule, violations, duration := seconds start stop } : SimulationResult)) q events e q') :
    (∃ stop, s.Lints workspace d (worksOf events) (.error stop) ∧ e = .error stop) ∨
    ∃ report, s.Lints workspace d (worksOf events) (.ok report) ∧
      ((∃ f, violationsOf rule workspace report = .error f ∧ e = .error (.failed f)) ∨
        ∃ result : SimulationResult, violationsOf rule workspace report = .ok result.violations ∧
          result.ruleId = rule ∧ e = .ok result) := by
  obtain ⟨start, q₁, events₁, -, hlint, rfl⟩ := (Job.runs_ask_bind_iff .clock id).mp h
  rcases Job.runs_bind_iff.mp hlint with ⟨report, q₂, events₂, events₃, hlints, hread, rfl⟩ | ⟨stop, hlints, rfl⟩
  · replace hlints := lints_of_runs hlints
    have hworks : worksOf (⟨.clock, start⟩ :: (events₂ ++ events₃)) = events₂ ++ worksOf events₃ := by
      rw [worksOf_clock_cons, worksOf_append, hlints.worksOf_eq]
    rw [hworks]
    rcases Job.runs_ofResult_bind_iff.mp hread with ⟨vs, hvs, hstop⟩ | ⟨f, hf, rfl, rfl, rfl⟩
    · obtain ⟨stop, q₃, events₄, -, hend, rfl⟩ := (Job.runs_ask_bind_iff .clock id).mp hstop
      obtain ⟨rfl, rfl, rfl⟩ := Job.runs_pure_iff.mp hend
      refine .inr ⟨report, ?_, .inr ⟨_, hvs, rfl, rfl⟩⟩
      rw [show worksOf [⟨.clock, stop⟩] = [] from rfl, List.append_nil]
      exact hlints
    · refine .inr ⟨report, ?_, .inl ⟨f, hf, rfl⟩⟩
      rw [show worksOf [] = [] from rfl, List.append_nil]
      exact hlints
  · replace hlints := lints_of_runs hlints
    refine .inl ⟨stop, ?_, rfl⟩
    rw [worksOf_clock_cons, hlints.worksOf_eq]
    exact hlints

/-- Once the rule is switched on, a simulation lints and reads the report. What is logged around that is no work. -/
theorem course_of_runs_logged {base : Option Path} {b d : Document}
    (henable : b.enable rule isOptin (some workspace.toString) s.settings.applyDefaultExclusions = .ok d)
    (h : Job.Runs w (do
      let result ← Job.logged s.threshold "rule_simulation"
        [("rule_id", .text rule), ("workspace", .text workspace.toString)] (do
          let start ← Job.clock
          let report ← s.lintUnder workspace d
          let violations ← Job.ofResult (violationsOf rule workspace report)
          let stop ← Job.clock
          return ({ ruleId := rule, violations, duration := seconds start stop } : SimulationResult))
      Job.announce (.simulated rule result.violations.length result.affectedFiles.length)
      return result) q events e q') :
    s.Course rule workspace base isOptin (⟨.errand (.readBaseline base), .ok b⟩ :: worksOf events) e := by
  have hkeys : (["operation", "rule_id", "workspace"] : List Text).find? LogRecord.reservedKeys.contains = none := by
    decide
  rcases Job.runs_bind_iff.mp h with ⟨result, q₁, events₁, events₂, hlog, hrest, rfl⟩ | ⟨stop, hlog, rfl⟩
  · obtain ⟨q₂, q₃, events₃, hbody, hworks⟩ := Job.exists_of_runs_logged hlog hkeys clash?_simulation
    rcases measured_of_runs hbody with ⟨stop, -, ⟨⟩⟩ | ⟨report, hlints, ⟨f, -, ⟨⟩⟩ | ⟨_, hreads, hnamed, ⟨⟩⟩⟩
    have hend : events₂ = [] ∧
        e = announcing [.simulated rule result.violations.length result.affectedFiles.length] (.ok result) := by
      rcases Job.runs_announce_bind_iff.mp hrest with ⟨hshown, hend⟩ | ⟨run, hlost, rfl, rfl, rfl⟩
      · obtain ⟨rfl, rfl, rfl⟩ := Job.runs_pure_iff.mp hend
        exact ⟨rfl, (announcing_of_shown (by simpa using hshown) _).symm⟩
      · exact ⟨rfl, by simp [announcing, hlost]⟩
    obtain ⟨rfl, rfl⟩ := hend
    rw [List.append_nil, hworks]
    exact .reported b henable hlints hreads hnamed
  · obtain ⟨q₂, q₃, events₃, hbody, hworks⟩ := Job.exists_of_runs_logged hlog hkeys clash?_simulation
    rw [hworks]
    rcases measured_of_runs hbody with ⟨_, hlints, ⟨⟩⟩ | ⟨report, hlints, ⟨f, hf, ⟨⟩⟩ | ⟨_, -, -, ⟨⟩⟩⟩
    · exact .unreported b henable hlints
    · exact .unreadable b henable hlints hf

/-- With a baseline, a simulation goes one of the ways of its course. -/
theorem course_of_runs_simulateOn {base : Option Path} {b : Document}
    (h : Job.Runs w (s.simulateOn rule workspace isOptin b) q events e q') :
    s.Course rule workspace base isOptin (⟨.errand (.readBaseline base), .ok b⟩ :: worksOf events) e := by
  rcases Job.runs_ofResult_bind_iff.mp h with ⟨d, hd, hlog⟩ | ⟨f, hf, rfl, rfl, rfl⟩
  · exact course_of_runs_logged (eq_ok_of_mapError hd) hlog
  · cases henable : b.enable rule isOptin (some workspace.toString) s.settings.applyDefaultExclusions with
    | ok d =>
      rw [henable] at hf
      cases hf
    | error value =>
      rw [henable] at hf
      cases hf
      exact .unlisted b henable

/-- Every run of a simulation goes one of the ways of its course. -/
theorem course_of_runs {base : Option Path}
    (h : Job.Runs w (s.simulateRule rule workspace base isOptin) q events e q') :
    s.Course rule workspace base isOptin (worksOf events) e := by
  obtain ⟨reply, q₁, events₁, -, rfl, ⟨b, rfl, hrun⟩ | ⟨stop, rfl, rfl, rfl, rfl⟩⟩ := Job.runs_reply_bind_iff.mp h
  · exact course_of_runs_simulateOn hrun
  · exact .rejected stop

/-! ### Simulations on top of a fetched configuration -/

/-- How a simulation on top of a configuration from the network can go, given how fetching it ended: its works, and its
end for them. -/
inductive RemoteCourse (s : Simulator) (rule : Text) (workspace : Path) (isOptin : Bool) :
    Except Stop Text → List ServiceEvent → Except Stop SimulationResult → Prop where
  /-- There is no configuration. -/
  | unfetched (stop : Stop) : RemoteCourse s rule workspace isOptin (.error stop) [] (.error stop)
  /-- There is no scratch directory. -/
  | unmade (text : Text) (f : Failure) :
      RemoteCourse s rule workspace isOptin (.ok text) [⟨.makeScratch s.settings.scratchPrefix, .error f⟩]
        (.error (.failed f))
  /-- The configuration is not written. -/
  | unwritten (text : Text) (directory : Path) (stop : Stop) :
      RemoteCourse s rule workspace isOptin (.ok text)
        [⟨.makeScratch s.settings.scratchPrefix, .ok directory⟩,
          ⟨.errand (.writeText (s.configIn directory) text), .error stop⟩, ⟨.removeTree directory, ()⟩]
        (.error stop)
  /-- It is the baseline of a simulation. -/
  | simulated (text : Text) (directory : Path) {works : List ServiceEvent} {e : Except Stop SimulationResult}
      (course : s.Course rule workspace (some (s.configIn directory)) isOptin works e) :
      RemoteCourse s rule workspace isOptin (.ok text)
        (⟨.makeScratch s.settings.scratchPrefix, .ok directory⟩ ::
          ⟨.errand (.writeText (s.configIn directory) text), .ok ()⟩ :: (works ++ [⟨.removeTree directory, ()⟩]))
        e

end Simulator

/-! ### Fetching -/

namespace Remote

open ServiceAct (IsIdle)

theorem onlyAsks_send (url : Text) : (Job.send url).OnlyAsks IsIdle := Job.onlyAsks_ask rfl

theorem onlyAsks_drain (decoding : ContentDecoding) : (Job.drain decoding).OnlyAsks IsIdle := Job.onlyAsks_ask rfl

theorem onlyAsks_heed (settings : RemoteSettings) (url : Text) {left : Nat} (address : Address)
    (hfollow : ∀ n target, left = n + 1 → (follow settings url n target).OnlyAsks IsIdle) (head : ResponseHead) :
    (heed settings url left address head).OnlyAsks IsIdle := by
  unfold heed
  split
  · exact Job.onlyAsks_fail _
  · split
    · exact Job.onlyAsks_pure head
    · refine (Job.onlyAsks_ofResult _).bind fun target => (onlyAsks_drain _).bind fun _ => ?_
      refine (onlyAsks_networkResult ..).bind fun _ => ?_
      cases left with
      | zero => exact Job.onlyAsks_fail _
      | succ left => exact hfollow left target rfl

theorem onlyAsks_follow (settings : RemoteSettings) (url : Text) (left : Nat) (address : Address) :
    (follow settings url left address).OnlyAsks IsIdle := by
  induction left generalizing address with
  | zero =>
    rw [follow_eq]
    refine (onlyAsks_send _).bind fun _ => (onlyAsks_networkResult ..).bind (onlyAsks_heed settings url address ?_)
    exact fun n _ hn => absurd hn.symm n.succ_ne_zero
  | succ left ih =>
    rw [follow_eq]
    refine (onlyAsks_send _).bind fun _ => (onlyAsks_networkResult ..).bind (onlyAsks_heed settings url address ?_)
    intro n target hn
    cases hn
    exact ih target

theorem onlyAsks_download (settings : RemoteSettings) (url : Text) : (download settings url).OnlyAsks IsIdle := by
  refine (Job.onlyAsks_ofResult _).bind fun address => (Job.onlyAsks_ofResult _).bind fun _ => ?_
  refine (onlyAsks_follow ..).bind fun head => ?_
  split
  · exact Job.onlyAsks_fail _
  · exact (Job.onlyAsks_ofResult _).bind fun _ => onlyAsks_readBody (fun _ => rfl) ..

/-- Fetching a configuration does no work. -/
theorem onlyAsks_fetchConfig (settings : RemoteSettings) (threshold : LogLevel) (url : Text) :
    (fetchConfig settings threshold url).OnlyAsks IsIdle := by
  have hbody : ∀ resolved, Job.OnlyAsks IsIdle (do
      let body ← download settings resolved
      Job.ofResult (configurationText resolved body)) :=
    fun resolved => (onlyAsks_download settings resolved).bind fun _ => Job.onlyAsks_ofResult _
  exact (Job.onlyAsks_ofResult _).bind fun resolved => (hbody resolved).logged rfl (fun _ => rfl) _ _ _

end Remote

/-- Every run of a simulation on top of a fetched configuration fetches first, without any work, and goes one of the ways
of its course then. -/
theorem Simulator.remoteCourse_of_runs {s : Simulator} {rule : Text} {workspace : Path} {url : Text} {isOptin : Bool}
    {e : Except Stop SimulationResult} (h : Job.Runs w (s.simulateRemote rule workspace url isOptin) q events e q') :
    ∃ fetched q₁ events₁ events₂, Job.Runs w (Remote.fetchConfig s.remote s.threshold url) q events₁ fetched q₁ ∧
      events = events₁ ++ events₂ ∧ worksOf events₁ = [] ∧
      s.RemoteCourse rule workspace isOptin fetched (worksOf events₂) e := by
  rcases Job.runs_bind_iff.mp h with ⟨text, q₁, events₁, events₂, hfetch, hrest, rfl⟩ | ⟨stop, hfetch, rfl⟩
  · refine ⟨.ok text, q₁, events₁, events₂, hfetch, rfl, (Remote.onlyAsks_fetchConfig ..).worksOf_eq_nil hfetch, ?_⟩
    rcases runs_inScratch_iff.mp hrest with ⟨f, -, rfl, rfl⟩ | ⟨directory, q₂, q₃, events₃, -, hjob, -, rfl⟩
    · exact .unmade text f
    · obtain ⟨written, q₄, events₄, -, rfl, ⟨-, rfl, hsim⟩ | ⟨stop, rfl, rfl, rfl, rfl⟩⟩ :=
        Job.runs_reply_bind_iff.mp hjob
      · rw [worksOf_cons_of_isWork rfl, List.cons_append, worksOf_cons_of_isWork rfl, worksOf_append]
        exact .simulated text directory (course_of_runs hsim)
      · exact .unwritten text directory stop
  · exact ⟨.error stop, q', events, [], hfetch, (List.append_nil _).symm,
      (Remote.onlyAsks_fetchConfig ..).worksOf_eq_nil hfetch, .unfetched stop⟩

end LintPreview
