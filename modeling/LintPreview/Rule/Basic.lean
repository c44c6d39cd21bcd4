import LintPreview.Json.Value
import LintPreview.Text.Lines
import LintPreview.Text.Case

/-!
Lint rules.

* `Category`, `Severity`, `ParameterKind`: the closed sets that a rule's fields come from, each with its key.
* `Rule`, `Parameter`: what is known about a rule. A rule is identified by its `id` (`Rule.same`).
* `Rule.needsDetails`: nothing has described the rule so far.
* `displayName`: a readable name made of an identifier.
-/

namespace LintPreview

/-- What a rule is about. -/
inductive Category where
  | style
  | lint
  | performance
  | idiomatic
  | metrics
  | uncategorized
deriving DecidableEq, Repr, Inhabited

/-- How grave a finding is. -/
inductive Severity where
  | warning
  | error
deriving DecidableEq, Repr, Inhabited

/-- The kind of value that a parameter takes. -/
inductive ParameterKind where
  | integer
  | string
  | boolean
  | array
deriving DecidableEq, Repr, Inhabited

namespace Category

/-- All categories. -/
def all : List Category := [style, lint, performance, idiomatic, metrics, uncategorized]

/-- The key of a category. -/
def key : Category → Text
  | style => "style"
  | lint => "lint"
  | performance => "performance"
  | idiomatic => "idiomatic"
  | metrics => "metrics"
  | uncategorized => "uncategorized"

/-- The name that is shown for a category. -/
def displayName : Category → Text
  | style => "Style"
  | lint => "Lint"
  | performance => "Performance"
  | idiomatic => "Idiomatic"
  | metrics => "Metrics"
  | uncategorized => "Uncategorized"

/-- The category with exactly this key. -/
def ofKey? (key : Text) : Option Category := all.find? (·.key = key)

/-- The category that a text names, in any case and with blanks around it. -/
def ofText (s : Text) : Category := (ofKey? (Text.toLower (Text.trim s))).getD uncategorized

end Category

namespace Severity

/-- Both severities. -/
def all : List Severity := [warning, error]

/-- The key of a severity. -/
def key : Severity → Text
  | warning => "warning"
  | error => "error"

/-- The severity with exactly this key. -/
def ofKey? (key : Text) : Option Severity := all.find? (·.key = key)

/-- The severity that a text names, in any case and with blanks around it; anything unknown is a warning. -/
def ofText (s : Text) : Severity := (ofKey? (Text.toLower (Text.trim s))).getD warning

end Severity

namespace ParameterKind

/-- All kinds. -/
def all : List ParameterKind := [integer, string, boolean, array]

/-- The key of a kind. -/
def key : ParameterKind → Text
  | integer => "integer"
  | string => "string"
  | boolean => "boolean"
  | array => "array"

/-- The kind with exactly this key. -/
def ofKey? (key : Text) : Option ParameterKind := all.find? (·.key = key)

end ParameterKind

/-- A value stands where a text belongs; it carries the name of the value's kind. -/
structure NotText where
  kindName : Text
deriving DecidableEq, Repr

/-- The wording: the value cannot be trimmed. -/
def NotText.message (e : NotText) : Text := "'" ++ e.kindName ++ "' object has no attribute 'strip'"

/-- The category that a value names; a value that is not given names none. -/
def Category.ofKind (kind : Json) : Except NotText Category :=
  if !kind.isTruthy then .ok .uncategorized
  else match kind with
    | .text s => .ok (.ofText s)
    | other => .error ⟨other.kindName⟩

/-- The severity that a value names; a value that is not given names a warning. -/
def Severity.ofRaw (raw : Json) : Except NotText Severity :=
  if !raw.isTruthy then .ok .warning
  else match raw with
    | .text s => .ok (.ofText s)
    | other => .error ⟨other.kindName⟩

/-- A setting that a rule takes. -/
structure Parameter where
  name : Text
  kind : ParameterKind
  defaultValue : Json := .null
  description : Option Text := none
deriving DecidableEq, Repr

/-- What is known about a rule. -/
structure Rule where
  id : Text
  name : Text
  description : Text := ""
  category : Category := .uncategorized
  isOptin : Bool := false
  defaultSeverity : Option Severity := none
  parameters : Option (List Parameter) := none
  triggeringExamples : List Text := []
  nonTriggeringExamples : List Text := []
  documentationUrl : Option Text := none
  supportsAutocorrection : Bool := false
  minimumToolVersion : Option Text := none
deriving DecidableEq, Repr, Inhabited

/-- Two rules are the same rule if their ids agree. -/
def Rule.same (a b : Rule) : Bool := a.id == b.id

/-- Whether nothing has described the rule. -/
def Rule.needsDetails (r : Rule) : Bool :=
  r.description.isEmpty && r.triggeringExamples.isEmpty && r.nonTriggeringExamples.isEmpty

/-- A readable name made of an identifier: `force_cast` becomes `Force Cast`. -/
def displayName (identifier : Text) : Text :=
  Text.toTitle (Text.ofList (identifier.toList.map fun c : CodePoint => if c = '_' then ' ' else c))

/-- Rules with every one left out whose id occurred before. -/
def dropRepeatedIds : List Rule → List Rule
  | [] => []
  | r :: rest => r :: (dropRepeatedIds rest).filter (fun s => s.id ≠ r.id)

end LintPreview
