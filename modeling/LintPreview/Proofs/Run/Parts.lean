import LintPreview.Proofs.Catalog.Load
import LintPreview.Rehearsal

/-!
# Rehearsing jobs part by part

* `Rehearsal.run_bind_of_ok`, `Rehearsal.run_bind_of_error`: a job that goes on with the result of another one.
* `Rehearsal.run_ensuring`: a job with something behind it.
* `Rehearsal.noting`: a rehearsal with records logged. Logging an operation does no more to it
  (`Rehearsal.exists_run_logged`).
* `Rehearsal.run_announce_bind`: an end behind a notice.
* `Rehearsal.run_lint`: what a script replies to a lint call.
-/

namespace LintPreview.Rehearsal

variable {α β : Type} {r r' : Rehearsal}

/-! ### Jobs one after the other -/

theorem run_bind_of_ok {job : Job α} {a : α} (h : run job r = (.ok a, r')) (f : α → Job β) :
    run (job >>= f) r = run (f a) r' := by
  have hrun : run (job >>= f) r = run (ExceptT.mk (ExceptT.bindCont f (run job r).1) : Job β) (run job r).2 :=
    Program.run_bind answer job.run (ExceptT.bindCont f) r
  rw [hrun, h]
  rfl

theorem run_bind_of_error {job : Job α} {stop : Stop} (h : run job r = (.error stop, r')) (f : α → Job β) :
    run (job >>= f) r = (.error stop, r') := by
  have hrun : run (job >>= f) r = run (ExceptT.mk (ExceptT.bindCont f (run job r).1) : Job β) (run job r).2 :=
    Program.run_bind answer job.run (ExceptT.bindCont f) r
  rw [hrun, h]
  rfl

theorem run_clock (r : Rehearsal) : run Job.clock r = (.ok 0, r) := rfl

theorem run_outcome (job : Job α) (r : Rehearsal) : run job.outcome r = (.ok (run job r).1, (run job r).2) :=
  Program.run_bind answer job.run (fun e => .done (Except.ok (ε := Stop) e)) r

/-- What is done behind a job leaves its end as it is. -/
theorem run_ensuring (job : Job α) {cleanup : Job Unit}
    (h : run cleanup (run job r).2 = (.ok (), r')) : run (job.ensuring cleanup) r = ((run job r).1, r') := by
  unfold Job.ensuring
  rw [run_bind_of_ok (run_outcome job r), run_bind_of_ok h]
  rfl

/-! ### Records and notices -/

/-- The rehearsal with records logged. -/
def noting (r : Rehearsal) (records : List LogRecord) : Rehearsal :=
  { r with seen.records := r.seen.records ++ records }

theorem exists_run_emit {record : LogRecord} (h : record.clash? = none) (limit : Int) (r : Rehearsal) :
    ∃ records, run (Job.emit limit record) r = (.ok (), r.noting records) := by
  unfold Job.emit
  split
  · refine ⟨[], ?_⟩
    rw [noting, List.append_nil]
    rfl
  · rw [h]
    exact ⟨[record], rfl⟩

/-- Logging an operation adds records before and after it, if none clashes. -/
theorem exists_run_logged (threshold : LogLevel) (operation : Text) (context : List (Text × Json))
    (hstart : (LogRecord.mk .info ("🚀 Starting " ++ operation)
      (collectEntries (("operation", .text operation) :: context)) false).clash? = none)
    (hstop : ∀ (took : Nat) (e : Except Stop α), (Job.withLatency took
      (Job.endRecord operation (collectEntries (("operation", .text operation) :: context)) took e)).clash? = none)
    (job : Job α) (r : Rehearsal) :
    ∃ before after, run (job.logged threshold operation context) r =
      ((run job (r.noting before)).1, (run job (r.noting before)).2.noting after) := by
  obtain ⟨before, hbefore⟩ := exists_run_emit hstart threshold.rank r
  have hjob := run_outcome job (r.noting before)
  refine ⟨before, ?_⟩
  generalize run job (r.noting before) = ended at hjob ⊢
  obtain ⟨e, r₁⟩ := ended
  obtain ⟨after, hafter⟩ := exists_run_emit (hstop (Job.latency 0 0) e) threshold.rank r₁
  refine ⟨after, ?_⟩
  unfold Job.logged Job.loggedFrom
  dsimp only
  rw [run_bind_of_ok (run_clock r)]
  rw [run_bind_of_ok hbefore]
  rw [run_bind_of_ok hjob]
  rw [run_bind_of_ok (run_clock r₁)]
  rw [run_bind_of_ok hafter]
  rfl

theorem run_announce_bind (n : Notice) (a : α) (r : Rehearsal) :
    run (Job.announce n >>= fun _ => pure a) r = (announcing [n] (.ok a), r) := by
  have hend : run (Job.announce n) r = (announcing [n] (.ok ()), r) := by
    unfold Job.announce announcing
    rw [List.findSome?_cons]
    cases n.lost? with
    | none => rfl
    | some lost => rfl
  cases hshown : announcing [n] (.ok ()) with
  | ok =>
    rw [hshown] at hend
    rw [run_bind_of_ok hend, announcing_of_ok hshown]
    rfl
  | error stop =>
    rw [hshown] at hend
    rw [run_bind_of_error hend, announcing_of_error hshown]

/-! ### Acts -/

theorem run_readBaseline (base : Option Path) (r : Rehearsal) :
    run (Job.errand (.readBaseline base)) r =
      (((readBaseline r.host.files base).mapError BaselineError.toFailure).mapError .failed, r) := by
  cases base <;> rfl

/-- A text is written where its path leads. -/
theorem run_writeText {path : Path} {content : Text} {bytes : List UInt8} {files : FileTree}
    (hencode : Text.encode content = .ok bytes) (hwrite : r.host.files.write path bytes = .ok files) :
    run (Job.errand (.writeText path content)) r = (.ok (), { r with host.files := files }) := by
  have hanswer : Host.answerDisk (.write path content) r.host = (.ok (), { r.host with files := files }) := by
    rw [Host.answerDisk, hencode]
    show r.host.changed (r.host.files.write path bytes) = _
    rw [hwrite]
    rfl
  have hprogram : (Errand.writeText path content).program.run Host.answerDisk r.host =
      (.ok (), { r.host with files := files }) := by
    show ((Host.answerDisk (.write path content) r.host).1.mapError Failure.path,
      (Host.answerDisk (.write path content) r.host).2) = _
    rw [hanswer]
    rfl
  show (((Errand.writeText path content).program.run Host.answerDisk r.host).1.mapError Stop.failed,
    { r with host := ((Errand.writeText path content).program.run Host.answerDisk r.host).2 }) = _
  rw [hprogram]
  rfl

/-- A script replies to a lint call with its next report, and sees the text of the configuration. -/
theorem exists_run_lint {script : ToolScript} {report : Text} (htool : r.tool = .scripted script)
    (hreport : script.lint.head? = some (.text report)) (workspace config : Path) :
    ∃ r', run (Job.lint workspace config) r = (.ok report, r') ∧ r'.host = r.host ∧
      r'.seen.lints = r.seen.lints ++ [⟨workspace, config, fileText r.host.files config⟩] := by
  obtain ⟨left, hnext⟩ : ∃ left, nextOf (.text "") script.lint = (.text report, left) := by
    obtain ⟨rest, hrest⟩ := List.head?_eq_some_iff.mp hreport
    rw [hrest]
    cases rest <;> exact ⟨_, rfl⟩
  have hreply : r.commandReply (.lint workspace config) = r.scriptedReply script (.lint workspace config) := by
    rw [commandReply, htool]
  have hrun : run (Job.lint workspace config) r = r.scriptedReply script (.lint workspace config) := hreply
  rw [hrun, scriptedReply, hnext]
  exact ⟨_, rfl, rfl, rfl⟩

end LintPreview.Rehearsal
