import LintPreview.Remote.Url
import LintPreview.Rule.Record

/-!
What the bodies of requests hold.

* `SimulationForm`: one rule to simulate; a baseline comes from a file or from a URL, not from both.
* `BatchForm`: several rules to simulate.
* `UrlForm`, `UrlReport`: a URL to judge, and the judgement.
-/

namespace LintPreview

/-- A rule to simulate in a workspace. Whether it is opt-in is looked up where that is not said. -/
structure SimulationForm where
  rule : Text
  workspace : Text
  basePath : Option Text := none
  baseUrl : Option Text := none
  isOptin : Option Bool := none
deriving Repr

/-- A text that is there and not empty. -/
def filled? (text : Option Text) : Option Text := text.filter fun s => !s.isEmpty

namespace SimulationForm

/-- Whether a form names two baselines. -/
def hasTwoBaselines (f : SimulationForm) : Bool := (filled? f.basePath).isSome && (filled? f.baseUrl).isSome

/-- The members of a form, each by itself. -/
def checkMembers : Json → Checked SimulationForm :=
  Checked.record fun es => SimulationForm.mk
    <$> Checked.required "rule_id" Checked.filledText es
    <*> Checked.required "workspace_path" Checked.text es
    <*> Checked.withDefault "base_config_path" none (Checked.orNull Checked.text) es
    <*> Checked.withDefault "base_config_url" none (Checked.orNull Checked.text) es
    <*> Checked.withDefault "is_optin" none (Checked.orNull Checked.flag) es

/-- The form in a body. -/
def check (v : Json) : Checked SimulationForm :=
  (checkMembers v).andThen fun f => if f.hasTwoBaselines then Checked.fault .contradiction else .valid f

/-- A form as a body. -/
def toJson (f : SimulationForm) : Json := .object [
  ("rule_id", .text f.rule),
  ("workspace_path", .text f.workspace),
  ("base_config_path", .ofTextOption f.basePath),
  ("base_config_url", .ofTextOption f.baseUrl),
  ("is_optin", (f.isOptin.map Json.bool).getD .null)]

end SimulationForm

/-- Rules to simulate one after the other. -/
structure BatchForm where
  rules : List Text
  workspace : Text
  basePath : Option Text := none
deriving Repr

namespace BatchForm

/-- A list of texts that is not empty. -/
def checkRules (v : Json) : Checked (List Text) :=
  (Checked.list .notList Checked.text v).andThen fun rules =>
    if rules.isEmpty then Checked.fault .listTooShort else .valid rules

/-- The form in a body. -/
def check : Json → Checked BatchForm :=
  Checked.record fun es => BatchForm.mk
    <$> Checked.required "rule_ids" checkRules es
    <*> Checked.required "workspace_path" Checked.text es
    <*> Checked.withDefault "base_config_path" none (Checked.orNull Checked.text) es

/-- A form as a body. -/
def toJson (f : BatchForm) : Json := .object [
  ("rule_ids", .ofTexts f.rules),
  ("workspace_path", .text f.workspace),
  ("base_config_path", .ofTextOption f.basePath)]

end BatchForm

/-- A URL to judge. -/
structure UrlForm where
  url : Text
deriving Repr

namespace UrlForm

/-- The form in a body. -/
def check : Json → Checked UrlForm :=
  Checked.record fun es => UrlForm.mk <$> Checked.required "url" Checked.text es

/-- A form as a body. -/
def toJson (f : UrlForm) : Json := .object [("url", .text f.url)]

end UrlForm

/-- The judgement on a URL, and what a valid one leads to. -/
structure UrlReport where
  verdict : Remote.UrlVerdict
  resolved : Option Text := none
deriving Repr

namespace UrlReport

/-- The report of a record. -/
def check : Json → Checked UrlReport :=
  Checked.record fun es => UrlReport.mk
    <$> Checked.required "result" (Checked.choice Remote.UrlVerdict.ofKey?) es
    <*> Checked.withDefault "resolved_url" none (Checked.orNull Checked.text) es

/-- The record of a report. -/
def toJson (r : UrlReport) : Json := .object [
  ("result", .text r.verdict.key),
  ("resolved_url", .ofTextOption r.resolved)]

/-- The judgement on a URL. -/
def ofUrl (url : Text) : Except Remote.UrlFault UrlReport := do
  match Remote.validateUrl url with
  | .valid => return ⟨.valid, some (← Remote.rawUrl url)⟩
  | verdict => return ⟨verdict, none⟩

end UrlReport

end LintPreview
