import LintPreview.Json.Reader
import LintPreview.Path
import LintPreview.Rule.Basic

/-!
Violations: the findings in a report of the lint tool.

* `readViolations`: the violations of a report, in order; records that lack a field are passed over.
* `Violation.ofRecord?`: the violation of one record.
-/

namespace LintPreview

/-- One finding of the lint tool. -/
structure Violation where
  ruleId : Text
  filePath : Text
  line : Int
  column : Option Int := none
  severity : Severity := .warning
  message : Text
deriving DecidableEq, Repr

/-- Why a report gives no violations. -/
inductive ReportError where
  | malformed (m : JsonMalformed)
  | notArray (kindName : Text)
  | numberTooLong (digits : Nat)
  | tooDeep
deriving DecidableEq, Repr

/-- A whole number above zero. -/
def positiveInt? : Json → Option Int
  | .int i => if 0 < i then some i else none
  | _ => none

/-- The violation of a record, if the record has all the fields. -/
def Violation.ofRecord? (workspace : Option Text) (record : Json) : Option Violation :=
  match (record.field "rule_id").asText?, (record.field "reason").asText?, (record.field "severity").asText?,
      (record.field "file").asText? with
  | some ruleId, some reason, some severity, some file =>
    some {
      ruleId := ruleId
      filePath := relativeToWorkspace file workspace
      line := (positiveInt? (record.field "line")).getD 1
      column := positiveInt? ((record.get? "character").getD (record.field "column"))
      severity := .ofText severity
      message := reason }
  | _, _, _, _ => none

/-- The violations of records, in order. -/
def violationsOfRecords (workspace : Option Text) (records : List Json) : List Violation :=
  records.filterMap (Violation.ofRecord? workspace)

/-- The violations of a report; a blank report has none. -/
def readViolations (output : Text) (workspace : Option Text) : Except ReportError (List Violation) :=
  if (Text.trimChars output.toList).isEmpty then .ok []
  else match Json.read output with
    | .error (.malformed m) => .error (.malformed m)
    | .error (.numberTooLong digits) => .error (.numberTooLong digits)
    | .error .tooDeep => .error .tooDeep
    | .ok (.list items) => .ok (violationsOfRecords workspace items)
    | .ok v => .error (.notArray v.kindName)

end LintPreview
