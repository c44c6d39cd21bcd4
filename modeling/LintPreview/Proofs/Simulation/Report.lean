import LintPreview.Proofs.Files.Inside
import LintPreview.Proofs.Overlay.Enabling
import LintPreview.Proofs.Run.Parts
import LintPreview.Proofs.Simulation.Course
import LintPreview.Proofs.Simulation.Findings
import LintPreview.Proofs.Yaml.Whole

/-!
# What a simulation makes of a report

* `Simulator.FindsPlace`: a machine has a free place for a scratch directory, and the configuration fits into it.
* `Simulator.exists_run_lintUnder`: the lint tool is called once, and sees the configuration.
* `HoldsRecords`: the records that a report holds. `ReportEnd`: how a simulation ends for a report.
* `Simulator.run_simulateRule`: every simulation on top of a baseline ends so, if the tool gives a report.
-/

namespace LintPreview

namespace Simulator

open Rehearsal (run)

variable {s : Simulator} {h h' : Host} {directory : Path} {r : Rehearsal} {script : ToolScript} {report : Text}

/-! ### The configuration in its scratch directory -/

/-- A machine finds a free place for a scratch directory, where the path of the configuration is not too long. -/
structure FindsPlace (s : Simulator) (h : Host) (directory : Path) : Prop where
  made : ∃ h', h.makeScratch s.settings.scratchPrefix = .ok (directory, h')
  free : ∀ loc, h.files.locate directory = .ok loc → h.files.IsFree loc
  room : ∀ bytes, Text.encodeName (s.configIn directory).toString = .ok bytes → bytes.length < maxPathBytes

theorem exists_of_makeScratch {label : Text} (hmade : h.makeScratch label = .ok (directory, h')) :
    directory.isAbsolute = true ∧ ∃ loc, h.files.locate directory = .ok loc ∧
      h' = { h with files := h.files.put loc .directory } := by
  obtain ⟨root, -, hrest⟩ := exists_of_bind_ok hmade
  obtain ⟨loc, hloc, hend⟩ := exists_of_bind_ok hrest
  cases hend
  refine ⟨?_, loc, hloc, rfl⟩
  unfold Path.join
  split
  · assumption
  · rfl

/-- The configuration can be written into the scratch directory. -/
theorem FindsPlace.exists_write (hplace : s.FindsPlace h directory)
    (hmade : h.makeScratch s.settings.scratchPrefix = .ok (directory, h')) (hname : IsFileName s.configFileName)
    (content : List UInt8) : ∃ files, h'.files.write (s.configIn directory) content = .ok files := by
  obtain ⟨habsolute, loc, hloc, rfl⟩ := exists_of_makeScratch hmade
  have hfree := hplace.free loc hloc
  have hconfig : s.configIn directory = directory.inside s.configFileName := by rw [configIn, hname.ofString_eq]
  have hput := FileTree.get?_put hfree.ne_nil h.files .directory
  have hloc' : (h.files.put loc .directory).locate directory = .ok loc := by
    refine (FileTree.keepsDirectories_put ?_ _).locate hloc
    rw [hfree.get?_eq_none]
    nofun
  have hdirectory : (h.files.put loc .directory).get? loc = some .directory := by rw [hput, if_pos rfl]
  have hroom := hplace.room
  rw [hconfig] at hroom ⊢
  obtain ⟨bytes, hinside⟩ := FileTree.locate_inside habsolute hloc' hdirectory hname hroom
  refine ⟨_, FileTree.write_eq_of_get?_eq_none hinside ?_ content⟩
  rw [hput, if_neg (by simp), hfree _ (List.prefix_append loc [bytes])]

/-- A job in a scratch directory sees the machine with the directory, and ends as it would on its own. -/
theorem exists_run_inScratch {α : Type} (hmade : r.host.makeScratch s.settings.scratchPrefix = .ok (directory, h'))
    (job : Path → Job α) : ∃ r₁, r₁.host = h' ∧ r₁.tool = r.tool ∧ r₁.seen.lints = r.seen.lints ∧
      ∀ e r₂, run (job directory) r₁ = (e, r₂) →
        ∃ r', run (s.inScratch job) r = (e, r') ∧ r'.seen.lints = r₂.seen.lints := by
  have hanswer : Rehearsal.answer (.makeScratch s.settings.scratchPrefix) r =
      (.ok directory, { r with host := h', seen.scratches := r.seen.scratches ++ [directory] }) := by
    rw [Rehearsal.answer, hmade]
  have hmake : run (Job.makeScratch s.settings.scratchPrefix) r =
      (.ok directory, { r with host := h', seen.scratches := r.seen.scratches ++ [directory] }) := by
    show ((Rehearsal.answer (.makeScratch s.settings.scratchPrefix) r).1.mapError Stop.failed,
      (Rehearsal.answer (.makeScratch s.settings.scratchPrefix) r).2) = _
    rw [hanswer]
    rfl
  refine ⟨{ r with host := h', seen.scratches := r.seen.scratches ++ [directory] }, rfl, rfl, rfl, ?_⟩
  intro e r₂ hjob
  have hremove : run (Job.removeTree directory) r₂ = (.ok (), { r₂ with host := r₂.host.removeTree directory }) := rfl
  refine ⟨{ r₂ with host := r₂.host.removeTree directory }, ?_, rfl⟩
  unfold inScratch
  rw [Rehearsal.run_bind_of_ok hmake, Rehearsal.run_ensuring _ (by rw [hjob]; exact hremove), hjob]

/-! ### The call of the lint tool -/

/-- A configuration that cannot be written is not linted under. -/
theorem exists_run_lintUnder_of_fault (hplace : s.FindsPlace r.host directory) (workspace : Path) {d : Document}
    {fault : DumpFault} (hfault : d.dumpFault? = some fault) : ∃ r',
      run (s.lintUnder workspace d) r = (.error (.failed (.undumpable fault)), r') ∧ r'.seen.lints = r.seen.lints := by
  obtain ⟨h', hmade⟩ := hplace.made
  obtain ⟨r₁, -, -, hlints, hend⟩ := exists_run_inScratch hmade fun directory => do
    Job.errand (.writeText (s.configIn directory) (← Job.ofResult (textOf d)))
    Job.lint workspace (s.configIn directory)
  have htext : run (Job.ofResult (textOf d)) r₁ = (.error (.failed (.undumpable fault)), r₁) := by
    rw [textOf_eq, hfault]
    rfl
  obtain ⟨r', hrun, hlints'⟩ := hend _ _ (Rehearsal.run_bind_of_error htext _)
  exact ⟨r', hrun, hlints'.trans hlints⟩

/-- The lint tool is called once. Its configuration holds the text of the document. -/
theorem exists_run_lintUnder (hplace : s.FindsPlace r.host directory) (hname : IsFileName s.configFileName)
    (htool : r.tool = .scripted script) (hreport : script.lint.head? = some (.text report)) (workspace : Path)
    {d : Document} (hwhole : d.dumpFault? = none) : ∃ r', run (s.lintUnder workspace d) r = (.ok report, r') ∧
      r'.seen.lints = r.seen.lints ++ [⟨workspace, s.configIn directory, d.toYaml⟩] := by
  obtain ⟨h', hmade⟩ := hplace.made
  obtain ⟨r₁, hhost, htool₁, hlints, hend⟩ := exists_run_inScratch hmade fun directory => do
    Job.errand (.writeText (s.configIn directory) (← Job.ofResult (textOf d)))
    Job.lint workspace (s.configIn directory)
  have htext : run (Job.ofResult (textOf d)) r₁ = (.ok d.toYaml, r₁) := by
    rw [textOf_eq, hwhole]
    rfl
  obtain ⟨bytes, hbytes⟩ := d.exists_encode_toYaml
  obtain ⟨files, hwrite⟩ := hplace.exists_write hmade hname bytes
  rw [← hhost] at hwrite
  obtain ⟨r₂, hlint, -, hlints₂⟩ := Rehearsal.exists_run_lint (r := { r₁ with host.files := files })
    (htool₁.trans htool) hreport workspace (s.configIn directory)
  have hfile : Rehearsal.fileText files (s.configIn directory) = d.toYaml := by
    rw [Rehearsal.fileText, FileTree.readBytes_of_write hwrite]
    show Text.ofList (Text.decodeLossy bytes) = _
    rw [Text.decodeLossy_of_encode hbytes, Text.ofList_toList]
  obtain ⟨r', hrun, hlints'⟩ := hend (.ok report) r₂ (by
    rw [Rehearsal.run_bind_of_ok htext, Rehearsal.run_bind_of_ok (Rehearsal.run_writeText hbytes hwrite)]
    exact hlint)
  refine ⟨r', hrun, ?_⟩
  rw [hlints', hlints₂]
  show r₁.seen.lints ++ [⟨workspace, s.configIn directory, Rehearsal.fileText files (s.configIn directory)⟩] = _
  rw [hlints, hfile]

end Simulator

/-! ### Reports -/

/-- A report is blank. -/
abbrev IsBlank (report : Text) : Prop := (Text.trimChars report.toList).isEmpty = true

/-- A report holds records: a blank one none, any other one those of the JSON array that it is. -/
inductive HoldsRecords (report : Text) : List Json → Prop where
  | blank (blank : IsBlank report) : HoldsRecords report []
  | array {records : List Json} (notBlank : ¬ IsBlank report) (reads : Json.read report = .ok (.list records)) :
      HoldsRecords report records

/-- How a simulation ends when the lint tool has given a report. -/
inductive ReportEnd (rule workspace report : Text) : Except Stop SimulationResult → Prop where
  /-- The result tells of the findings of the rule among the records, if its notice can be shown. -/
  | found {records : List Json} {result : SimulationResult} (holds : HoldsRecords report records)
      (finds : result.Finds workspace rule records) :
      ReportEnd rule workspace report
        (announcing [.simulated rule result.violations.length result.affectedFiles.length] (.ok result))
  /-- The report is no JSON. -/
  | notJson {m : JsonMalformed} (notBlank : ¬ IsBlank report) (fails : Json.read report = .error (.malformed m)) :
      ReportEnd rule workspace report (.error (.failed (.outputMalformed
        ("not valid JSON (" ++ m.fault.message ++ " at line " ++ Text.ofNat m.line ++ ")"))))
  /-- The report is JSON, but no array. -/
  | notArray {v : Json} (notBlank : ¬ IsBlank report) (reads : Json.read report = .ok v)
      (noList : ∀ items, v ≠ .list items) :
      ReportEnd rule workspace report
        (.error (.failed (.outputMalformed ("expected a JSON array, got " ++ v.kindName))))
  /-- Some number in the report has too many digits. -/
  | numberTooLong {digits : Nat} (notBlank : ¬ IsBlank report)
      (fails : Json.read report = .error (.numberTooLong digits)) :
      ReportEnd rule workspace report (.error (.failed (.literal (.tooLong digits))))
  /-- Something in the report is nested too deep. -/
  | tooDeep (notBlank : ¬ IsBlank report) (fails : Json.read report = .error .tooDeep) :
      ReportEnd rule workspace report (.error (.failed .jsonTooDeep))

namespace Simulator

open Rehearsal (run)

variable {s : Simulator} {directory workspace : Path} {r : Rehearsal} {script : ToolScript} {rule report : Text}

theorem reportEnd_of_error {f : Failure} (hf : violationsOf rule workspace report = .error f) :
    ReportEnd rule workspace.toString report (.error (.failed f)) := by
  unfold violationsOf readViolations at hf
  split at hf
  · cases hf
  · rename_i hblank
    split at hf
    · rename_i m hread
      cases hf
      exact .notJson hblank hread
    · rename_i digits hread
      cases hf
      exact .numberTooLong hblank hread
    · rename_i hread
      cases hf
      exact .tooDeep hblank hread
    · cases hf
    · rename_i v hlist hread
      cases hf
      exact .notArray hblank hread fun items heq => hlist items heq

theorem reportEnd_of_ok {result : SimulationResult} (hrule : result.ruleId = rule)
    (hviolations : violationsOf rule workspace report = .ok result.violations) :
    ReportEnd rule workspace.toString report
      (announcing [.simulated rule result.violations.length result.affectedFiles.length] (.ok result)) := by
  have hfinds : ∀ records, result.violations =
      (violationsOfRecords (some workspace.toString) records).filter (·.ruleId = rule) →
      result.Finds workspace.toString rule records := by
    intro records heq
    subst hrule
    exact result.finds _ _ heq
  unfold violationsOf readViolations at hviolations
  split at hviolations
  · rename_i hblank
    exact .found (.blank hblank) (hfinds [] (Except.ok.inj hviolations).symm)
  · rename_i hblank
    split at hviolations
    case h_4 records hread => exact .found (.array hblank hread) (hfinds records (Except.ok.inj hviolations).symm)
    all_goals cases hviolations

/-! ### Simulations -/

/-- Linting decides how a measured simulation ends. -/
theorem run_measured {d : Document} {r' : Rehearsal} {e : Except Stop Text}
    (hlint : run (s.lintUnder workspace d) r = (e, r')) :
    run (do
      let start ← Job.clock
      let report ← s.lintUnder workspace d
      let violations ← Job.ofResult (violationsOf rule workspace report)
      let stop ← Job.clock
      return ({ ruleId := rule, violations, duration := seconds start stop } : SimulationResult)) r =
    (e >>= fun report => ((violationsOf rule workspace report).mapError Stop.failed).map fun violations =>
      { ruleId := rule, violations, duration := seconds 0 0 }, r') := by
  rw [Rehearsal.run_bind_of_ok (Rehearsal.run_clock r)]
  cases e with
  | error stop =>
    rw [Rehearsal.run_bind_of_error hlint]
    rfl
  | ok report =>
    rw [Rehearsal.run_bind_of_ok hlint]
    cases hviolations : violationsOf rule workspace report with
    | error f =>
      have hread : run (Job.ofResult (.error f) : Job (List Violation)) r' = (.error (.failed f), r') := rfl
      rw [Rehearsal.run_bind_of_error hread]
      simp only [bind, Except.bind, hviolations]
      rfl
    | ok violations =>
      have hread : run (Job.ofResult (.ok violations)) r' = (.ok violations, r') := rfl
      rw [Rehearsal.run_bind_of_ok hread, Rehearsal.run_bind_of_ok (Rehearsal.run_clock r')]
      simp only [bind, Except.bind, hviolations]
      rfl

/-- A machine with nothing but a directory for scratch directories. -/
def bareHost : Host where
  files := { entries := [([Host.nameBytes "tmp"], .directory)] }

/-- The first scratch directory of that machine. -/
def firstScratch : Path := Path.ofString "/tmp/rulestudio-00000000"

/-- A rehearsal on that machine, in which the tool gives a report. -/
def reporting (report : Text) : Rehearsal where
  host := bareHost
  tool := .scripted { lint := [.text report] }

theorem isFileName_usual : IsFileName ({} : Simulator).configFileName := by
  refine ⟨by decide, by decide, by decide, by decide, ?_⟩
  exact ⟨Host.nameBytes ".swiftlint.yml", rfl, by decide, by decide⟩

theorem findsPlace_bareHost : ({} : Simulator).FindsPlace bareHost firstScratch where
  made := ⟨_, rfl⟩
  free loc hloc := by
    have hplace : bareHost.files.locate firstScratch = .ok (firstScratch.parts.map Host.nameBytes) := by decide +kernel
    cases hplace.symm.trans hloc
    rintro l ⟨rest, rfl⟩
    rfl
  room bytes hbytes := by
    have hpath : Text.encodeName (({} : Simulator).configIn firstScratch).toString =
        .ok (Host.nameBytes "/tmp/rulestudio-00000000/.swiftlint.yml") := by decide +kernel
    cases hpath.symm.trans hbytes
    decide +kernel

/-- A report with one record. -/
def oneRecord : Text :=
  "[\x7b\"rule_id\": \"force_cast\", \"reason\": \"m\", \"severity\": \"warning\", \"file\": \"a.swift\"\x7d]"

/-- A report with one record, in which a number stands that has as many digits. -/
def longOffset (digits : Nat) : Text :=
  "[\x7b\"rule_id\": \"r\", \"reason\": \"m\", \"severity\": \"warning\", \"file\": \"a\", \"offset\": " ++
    Text.ofList (List.replicate digits (.char '1')) ++ "\x7d]"

end Simulator

end LintPreview
