import LintPreview.Rule.Basic
import LintPreview.Schema.Checked

/-!
Rules as records.

* `Rule.check`: the rule of a record, or its faults.
* `Rule.toJson`: the record of a rule, every member written, in the order of the declaration.
-/

namespace LintPreview

/-- A text or null. -/
def Json.ofTextOption : Option Text → Json
  | some s => .text s
  | none => .null

/-- Texts as a list. -/
def Json.ofTexts (texts : List Text) : Json := .list (texts.map .text)

/-- The parameter of a record. -/
def Parameter.check : Json → Checked Parameter :=
  Checked.record fun es => Parameter.mk
    <$> Checked.required "name" Checked.text es
    <*> Checked.required "type" (Checked.choice ParameterKind.ofKey?) es
    <*> Checked.withDefault "default_value" .null .valid es
    <*> Checked.withDefault "description" none (Checked.orNull Checked.text) es

/-- The rule of a record. -/
def Rule.check : Json → Checked Rule :=
  Checked.record fun es => Rule.mk
    <$> Checked.required "id" Checked.text es
    <*> Checked.required "name" Checked.text es
    <*> Checked.withDefault "description" "" Checked.text es
    <*> Checked.withDefault "category" .uncategorized (Checked.choice Category.ofKey?) es
    <*> Checked.withDefault "is_optin" false Checked.flag es
    <*> Checked.withDefault "default_severity" none (Checked.orNull (Checked.choice Severity.ofKey?)) es
    <*> Checked.withDefault "parameters" none (Checked.orNull (Checked.list .notTuple Parameter.check)) es
    <*> Checked.withDefault "triggering_examples" [] (Checked.list .notTuple Checked.text) es
    <*> Checked.withDefault "non_triggering_examples" [] (Checked.list .notTuple Checked.text) es
    <*> Checked.withDefault "documentation_url" none (Checked.orNull Checked.text) es
    <*> Checked.withDefault "supports_autocorrection" false Checked.flag es
    <*> Checked.withDefault "minimum_tool_version" none (Checked.orNull Checked.text) es

/-- The record of a parameter. -/
def Parameter.toJson (p : Parameter) : Json := .object [
  ("name", .text p.name),
  ("type", .text p.kind.key),
  ("default_value", p.defaultValue),
  ("description", .ofTextOption p.description)]

/-- How deep a default value may be nested to be written, the values at the bottom included. -/
def Parameter.maxDefaultLevels : Nat := 255

/-- The levels of a rule's record that can be written: those of the default values, and three above them. -/
def Rule.maxLevels : Nat := 3 + Parameter.maxDefaultLevels

/-- The record of a rule. -/
def Rule.toJson (r : Rule) : Json := .object [
  ("id", .text r.id),
  ("name", .text r.name),
  ("description", .text r.description),
  ("category", .text r.category.key),
  ("is_optin", .bool r.isOptin),
  ("default_severity", .ofTextOption (r.defaultSeverity.map Severity.key)),
  ("parameters", (r.parameters.map fun ps => Json.list (ps.map Parameter.toJson)).getD .null),
  ("triggering_examples", .ofTexts r.triggeringExamples),
  ("non_triggering_examples", .ofTexts r.nonTriggeringExamples),
  ("documentation_url", .ofTextOption r.documentationUrl),
  ("supports_autocorrection", .bool r.supportsAutocorrection),
  ("minimum_tool_version", .ofTextOption r.minimumToolVersion)]

end LintPreview
