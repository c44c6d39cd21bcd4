import LintPreview.Baseline
import LintPreview.Json.Writer
import LintPreview.Remote.Label
import LintPreview.Rule.Listing
import LintPreview.Schema.Checked
import LintPreview.Settings
import LintPreview.Violation
import LintPreview.Yaml.Dump

/-!
Failures: why a service gives no result.

* `Failure`: a failure by its cause. Some are the services' own, others come out of a file, a value or a collaborator.
* `Failure.isOwn`: whether a failure is one of the services' own; only those are expected by callers.
* `Failure.message`: the wording of a failure.
* `Failure.response`: the status, the code and the details with which a failure is answered.
-/

namespace LintPreview

/-- Why there is no result. -/
inductive Failure where
  | general (text : Text)
  | cacheUnreadable (path reason : Text)
  | catalogUnavailable (failures : List (Text × Failure))
  | toolFailed (text : Text) (exitCode : Option Int) (errors : Text)
  | toolNotFound (text : Text) (exitCode : Option Int) (errors : Text)
  | toolTimedOut (seconds : Binary64)
  | outputMalformed (reason : Text)
  | baselineInvalid (path reason : Text)
  | remote (url text : Text)
  | insecureScheme (url : Text)
  | unsupportedScheme (url : Text)
  | invalidUrl (url : Text)
  | httpStatus (url : Text) (status : Int)
  | network (url reason : Text)
  | contentInvalid (url reason : Text)
  | listing (e : RuleListError)
  | badRecord (faults : List PlacedFault)
  | unwritable (fault : UnwritableJson)
  | path (fault : PathFault)
  | home (e : Path.HomeError)
  | undecodable (e : Text.Utf8Error)
  | yaml (fault : Yaml.Fault)
  | undumpable (fault : DumpFault)
  | notListed (value : NotListed)
  | notComparable (value : NotComparable)
  | literal (e : LiteralError)
  | badUrl (text : Text)
  | badAddress (text : Text)
  | badLabel (fault : Remote.LabelFault)
  | unencodable (text : Text)
  | jsonTooDeep
  | keyClash (key : Text)
  | foreign (kind text : Text)
deriving Repr

/-- The wording of an unknown home directory. -/
def Path.HomeError.message : Path.HomeError → Text
  | .unknownUser => "Could not determine home directory."
  | .embeddedNull => PathFault.message .embeddedNull

/-- The wording of a value that lists nothing. -/
def NotListed.message (e : NotListed) : Text := "'" ++ e.kindName ++ "' object is not iterable"

/-- The wording of values that cannot be compared. -/
def NotComparable.message (e : NotComparable) : Text := "unhashable type: '" ++ e.kindName ++ "'"

/-- Why a report is refused, as a failure. -/
def ReportError.toFailure : ReportError → Failure
  | .malformed m =>
    .outputMalformed ("not valid JSON (" ++ m.fault.message ++ " at line " ++ Text.ofNat m.line ++ ")")
  | .notArray kind => .outputMalformed ("expected a JSON array, got " ++ kind)
  | .numberTooLong digits => .literal (.tooLong digits)
  | .tooDeep => .jsonTooDeep

/-- Why there is no baseline, as a failure. -/
def BaselineError.toFailure : BaselineError → Failure
  | .invalid file fault => .baselineInvalid file fault.message
  | .value fault => .yaml fault
  | .path fault => .path fault

/-- Why a name or a text can stand in no environment, as a failure. -/
def EnvironmentFault.toFailure : EnvironmentFault → Failure
  | .unencodable run => .unencodable run.message
  | .embeddedNull => .path .embeddedNull

/-- Why a text from an address is no configuration, as a failure. -/
def ConfigurationFault.toFailure (url : Text) : ConfigurationFault → Failure
  | .notYaml => .contentInvalid url Yaml.Fault.malformed.message
  | .notMapping kind => .contentInvalid url ("top level is " ++ kind ++ ", expected a mapping")
  | .value fault => .yaml fault

namespace Failure

/-- Whether a failure is one of the services' own. -/
def isOwn : Failure → Bool
  | .general _ | .cacheUnreadable .. | .catalogUnavailable _ | .toolFailed .. | .toolNotFound .. | .toolTimedOut _
  | .outputMalformed _ | .baselineInvalid .. | .remote .. | .insecureScheme _ | .unsupportedScheme _
  | .invalidUrl _ | .httpStatus .. | .network .. | .contentInvalid .. => true
  | _ => false

/-- Whether a failure is one of the lint tool. -/
def isOfTool : Failure → Bool
  | .toolFailed .. | .toolNotFound .. | .toolTimedOut _ => true
  | _ => false

/-- The wording of a failure. -/
def message : Failure → Text
  | .general text => text
  | .cacheUnreadable file reason => "Cannot read rule cache at " ++ file ++ ": " ++ reason
  | .catalogUnavailable failures =>
    "Rule catalog unavailable (" ++ Text.intercalate "; " (sourceMessages failures) ++ ")"
  | .toolFailed text _ _ => text
  | .toolNotFound text _ _ => text
  | .toolTimedOut seconds => "Lint tool timed out after " ++ seconds.toText ++ " seconds"
  | .outputMalformed reason => "Malformed lint tool output: " ++ reason
  | .baselineInvalid file reason => "Invalid baseline configuration " ++ file ++ ": " ++ reason
  | .remote _ text => text
  | .insecureScheme url => "Only HTTPS URLs are supported: " ++ url
  | .unsupportedScheme url => "Unsupported URL scheme: " ++ url
  | .invalidUrl url => "The URL is not valid: " ++ url
  | .httpStatus url status => "HTTP error " ++ Text.ofInt status ++ " fetching " ++ url
  | .network url reason => "Network error fetching " ++ url ++ ": " ++ reason
  | .contentInvalid _ reason => "The fetched content is not a usable configuration: " ++ reason
  | .listing e => e.message
  | .badRecord faults => Text.ofNat faults.length ++ " validation errors"
  | .unwritable fault => fault.message
  | .undumpable fault => fault.message
  | .path fault => fault.message
  | .home e => e.message
  | .undecodable e => e.message
  | .yaml fault => fault.message
  | .notListed value => value.message
  | .notComparable value => value.message
  | .literal e => e.message
  | .badUrl text => text
  | .badAddress text => text
  | .badLabel fault => fault.message
  | .unencodable text => text
  | .jsonTooDeep => RuleListError.message .tooDeep
  | .keyClash key => Text.quoted ("Attempt to overwrite " ++ Text.quoted key ++ " in LogRecord")
  | .foreign _ text => text
where
  /-- The failures of sources, each behind the name of its source. -/
  sourceMessages : List (Text × Failure) → List Text
    | [] => []
    | (source, failure) :: rest => (source ++ ": " ++ failure.message) :: sourceMessages rest

/-- The failure of a source, if it was tried. -/
def ofSource? (source : Text) : Failure → Option Failure
  | .catalogUnavailable failures => valueUnder? source failures
  | _ => none

/-! ### Answers -/

/-- The status and the code of a failure's answer. -/
def statusCode : Failure → Nat × Text
  | .insecureScheme _ => (400, "insecure_scheme")
  | .unsupportedScheme _ => (400, "unsupported_scheme")
  | .invalidUrl _ => (400, "invalid_url")
  | .baselineInvalid .. => (422, "baseline_config_invalid")
  | .contentInvalid .. => (422, "invalid_config_content")
  | .httpStatus .. => (502, "remote_http_error")
  | .network .. => (502, "remote_network_error")
  | .toolTimedOut _ => (504, "tool_timeout")
  | .outputMalformed _ => (502, "tool_output_malformed")
  | .toolFailed .. => (502, "tool_failure")
  | .toolNotFound .. => (502, "tool_failure")
  | .catalogUnavailable _ => (503, "catalog_unavailable")
  | _ => (500, "internal_error")

/-- An exit code among details. -/
def exitDetails (exitCode : Option Int) : List (Text × Json) :=
  match exitCode with
  | some code => [("exit_code", .int code)]
  | none => []

/-- What an answer tells besides the message. -/
def details : Failure → List (Text × Json)
  | .cacheUnreadable file _ => [("path", .text file)]
  | .baselineInvalid file _ => [("path", .text file)]
  | .toolFailed _ exitCode _ => exitDetails exitCode
  | .toolNotFound _ exitCode _ => exitDetails exitCode
  | .remote url _ => [("url", .text url)]
  | .insecureScheme url => [("url", .text url)]
  | .unsupportedScheme url => [("url", .text url)]
  | .invalidUrl url => [("url", .text url)]
  | .httpStatus url status => [("url", .text url), ("status_code", .int status)]
  | .network url _ => [("url", .text url)]
  | .contentInvalid url _ => [("url", .text url)]
  | _ => []

/-- The body of a failure's answer. -/
def body (f : Failure) : Json := .object [
  ("error", .bool true),
  ("code", .text f.statusCode.2),
  ("message", .text f.message),
  ("details", if f.details.isEmpty then .null else .object f.details)]

end Failure

end LintPreview
