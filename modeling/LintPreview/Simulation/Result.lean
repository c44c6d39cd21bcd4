import LintPreview.Rule.Record
import LintPreview.Schema.Time
import LintPreview.Violation

/-!
Results of simulations.

* `SimulationResult`: the violations that one rule brings; the files they are in are listed once, in ascending order.
* `BatchResult`: the results of several rules, and why others have none.
* `SimulationResult.isSafe`: the rule brings no violation.
-/

namespace LintPreview

/-- The violation of a record. -/
def Violation.check : Json → Checked Violation :=
  Checked.record fun es => Violation.mk
    <$> Checked.required "rule_id" Checked.text es
    <*> Checked.required "file_path" Checked.text es
    <*> Checked.required "line" (Checked.atLeast 1) es
    <*> Checked.withDefault "column" none (Checked.orNull (Checked.atLeast 1)) es
    <*> Checked.withDefault "severity" .warning (Checked.choice Severity.ofKey?) es
    <*> Checked.required "message" Checked.text es

/-- The record of a violation. -/
def Violation.toJson (v : Violation) : Json := .object [
  ("rule_id", .text v.ruleId),
  ("file_path", .text v.filePath),
  ("line", .int v.line),
  ("column", (v.column.map Json.int).getD .null),
  ("severity", .text v.severity.key),
  ("message", .text v.message)]

/-- Texts in ascending order, each once. -/
def sortedDistinct (texts : List Text) : List Text :=
  texts.eraseDups.mergeSort fun a b => decide (a ≤ b)

/-- The violations that a rule brings when it is switched on; the duration is in seconds. -/
structure SimulationResult where
  ruleId : Text
  violations : List Violation := []
  duration : Binary64 := .zero
deriving Repr

namespace SimulationResult

/-- The files with violations. -/
def affectedFiles (r : SimulationResult) : List Text := sortedDistinct (r.violations.map (·.filePath))

/-- Whether the rule brings a violation. -/
def hasViolations (r : SimulationResult) : Bool := !r.violations.isEmpty

/-- Whether the rule brings no violation. -/
def isSafe (r : SimulationResult) : Bool := r.violations.isEmpty

/-- The result of a record. -/
def check (origin : Checked.Origin) : Json → Checked SimulationResult :=
  Checked.record fun es => SimulationResult.mk
    <$> Checked.required "rule_id" Checked.text es
    <*> Checked.withDefault "violations" [] (Checked.list .notTuple Violation.check) es
    <*> Checked.withDefault "duration" .zero (Checked.decimal origin) es

/-- The record of a result. -/
def toJson (r : SimulationResult) : Json := .object [
  ("rule_id", .text r.ruleId),
  ("violations", .list (r.violations.map Violation.toJson)),
  ("duration", .float r.duration),
  ("violation_count", .int r.violations.length),
  ("affected_files", .ofTexts r.affectedFiles)]

end SimulationResult

/-- The results of several rules, in order, and the messages of those that failed. -/
structure BatchResult where
  results : List SimulationResult := []
  failures : List (Text × Text) := []
  totalDuration : Binary64 := .zero
  completedAt : Moment
deriving Repr

namespace BatchResult

/-- The results without violations. -/
def safeRules (b : BatchResult) : List SimulationResult := b.results.filter (·.isSafe)

/-- The results with violations. -/
def rulesWithViolations (b : BatchResult) : List SimulationResult := b.results.filter (·.hasViolations)

/-- The batch result of a record; one without a moment was completed `now`. -/
def check (origin : Checked.Origin) (now : Moment) : Json → Checked BatchResult :=
  Checked.record fun es => BatchResult.mk
    <$> Checked.withDefault "results" [] (Checked.list .notList (SimulationResult.check origin)) es
    <*> Checked.withDefault "failures" [] (Checked.mapping Checked.text) es
    <*> Checked.withDefault "total_duration" .zero (Checked.decimal origin) es
    <*> Checked.withDefault "completed_at" now (Checked.moment origin) es

end BatchResult

end LintPreview
