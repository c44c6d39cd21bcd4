import LintPreview.Remote.Fetch
import LintPreview.Service.Notice
import LintPreview.Simulation.Result
import LintPreview.Yaml.Dump

/-!
Simulations: what would happen if a rule were switched on.

* `Simulator.simulateRule`: lints a workspace under a configuration with the rule switched on. The configuration is
  written into a scratch directory, which is removed however the simulation ends.
* `Simulator.simulateRemote`: the same on top of a configuration from the network.
* `Simulator.simulateRules`: one rule after the other; a rule that fails is noted and the others go on.
* `Simulator.findSafeRules`: the rules that bring no violation.
-/

namespace LintPreview

/-- How simulations are done. -/
structure Simulator where
  settings : SimulationSettings := {}
  remote : RemoteSettings := {}
  configFileName : Text := ".swiftlint.yml"
  threshold : LogLevel := .info

namespace Simulator

/-- A job in a new directory, which is removed however the job ends. -/
def inScratch {α : Type} (s : Simulator) (job : Path → Job α) : Job α := do
  let directory ← Job.makeScratch s.settings.scratchPrefix
  (job directory).ensuring (Job.removeTree directory)

/-- The file of a directory that holds a configuration. -/
def configIn (s : Simulator) (directory : Path) : Path := directory.join (Path.ofString s.configFileName)

/-- The text of a configuration, if it can be written. -/
def textOf (configuration : Document) : Except Failure Text :=
  match configuration.dumpFault? with
  | some fault => .error (.undumpable fault)
  | none => .ok configuration.toYaml

/-- The tool's report on a workspace under a configuration that is written for the purpose. -/
def lintUnder (s : Simulator) (workspace : Path) (configuration : Document) : Job Text :=
  s.inScratch fun directory => do
    Job.errand (.writeText (s.configIn directory) (← Job.ofResult (textOf configuration)))
    Job.lint workspace (s.configIn directory)

/-- Seconds between two readings of the clock. -/
def seconds (start stop : Nat) : Binary64 := .ofRatio false (stop - start) 1000000000

/-- The violations of a rule in a report. -/
def violationsOf (rule : Text) (workspace : Path) (report : Text) : Except Failure (List Violation) :=
  ((readViolations report (some workspace.toString)).map fun vs => vs.filter (·.ruleId = rule)).mapError
    ReportError.toFailure

/-- Lints a workspace with a rule switched on in a configuration. -/
def simulateOn (s : Simulator) (rule : Text) (workspace : Path) (isOptin : Bool) (baseline : Document) :
    Job SimulationResult := do
  let configuration ← Job.ofResult ((baseline.enable rule isOptin (some workspace.toString)
    s.settings.applyDefaultExclusions).mapError .notListed)
  let context : List (Text × Json) := [("rule_id", .text rule), ("workspace", .text workspace.toString)]
  let result ← Job.logged s.threshold "rule_simulation" context do
    let start ← Job.clock
    let report ← s.lintUnder workspace configuration
    let violations ← Job.ofResult (violationsOf rule workspace report)
    let stop ← Job.clock
    return ({ ruleId := rule, violations, duration := seconds start stop } : SimulationResult)
  Job.announce (.simulated rule result.violations.length result.affectedFiles.length)
  return result

/-- Lints a workspace with a rule switched on in the configuration of a project. -/
def simulateRule (s : Simulator) (rule : Text) (workspace : Path) (base : Option Path) (isOptin : Bool) :
    Job SimulationResult := do
  s.simulateOn rule workspace isOptin (← Job.errand (.readBaseline base))

/-- Lints a workspace with a rule switched on, on top of the configuration behind a URL. -/
def simulateRemote (s : Simulator) (rule : Text) (workspace : Path) (url : Text) (isOptin : Bool) :
    Job SimulationResult := do
  let text ← Remote.fetchConfig s.remote s.threshold url
  s.inScratch fun directory => do
    Job.errand (.writeText (s.configIn directory) text)
    s.simulateRule rule workspace (some (s.configIn directory)) isOptin

/-- The results and the messages of failures of several simulations. -/
abbrev Tally := List SimulationResult × List (Text × Text)

/-- What the end of a rule's simulation adds. Only failures of the services themselves are noted. -/
def tally (rule : Text) (sofar : Tally) : Except Stop SimulationResult → Job Tally
  | .ok result => return (sofar.1 ++ [result], sofar.2)
  | .error (.failed f) =>
    if f.isOwn then do
      Job.announce (.simulationFailed rule f.message)
      return (sofar.1, putEntry rule f.message sofar.2)
    else Job.fail f
  | .error .cancelled => throw .cancelled

/-- The rules of a batch. -/
structure Batch where
  workspace : Path
  base : Option Path := none
  optins : List Text := []
  reports : Bool := false

/-- Simulates the rules from the place `index` on. -/
def simulateFrom (s : Simulator) (b : Batch) (total : Nat) :
    (index : Nat) → (rules : List Text) → Tally → Job Tally
  | _, [], sofar => return sofar
  | index, rule :: rest, sofar => do
    if b.reports then Job.report index total rule
    let e ← (s.simulateRule rule b.workspace b.base (b.optins.contains rule)).outcome
    simulateFrom s b total (index + 1) rest (← tally rule sofar e)

/-- Simulates one rule after the other. -/
def simulateRules (s : Simulator) (b : Batch) (rules : List Text) : Job BatchResult := do
  let start ← Job.clock
  let (results, failures) ← s.simulateFrom b rules.length 0 rules ([], [])
  let stop ← Job.clock
  return { results, failures, totalDuration := seconds start stop, completedAt := ← Job.now }

/-- The rules that bring no violation. -/
def findSafeRules (s : Simulator) (b : Batch) (rules : List Text) : Job (List Text) := do
  return (← s.simulateRules b rules).safeRules.map (·.ruleId)

end Simulator

end LintPreview
