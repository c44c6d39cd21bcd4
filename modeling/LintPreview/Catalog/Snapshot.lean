import LintPreview.Json.Writer
import LintPreview.Rule.Record
import LintPreview.Schema.Checked
import LintPreview.Schema.Time

/-!
Snapshots: the rules known at a moment. No id occurs twice.

* `Snapshot.check`: the snapshot of a record; a repeated id contradicts it.
* `Snapshot.toJson`: the record of a snapshot.
* `Snapshot.ofText`, `Snapshot.text`: a snapshot as the content of a file.
-/

namespace LintPreview

/-- The rules known at a moment, and the version of the tool that reported them. -/
structure Snapshot where
  rules : List Rule
  createdAt : Moment
  toolVersion : Option Text := none
deriving Repr

/-- Whether no id occurs twice. -/
def distinctIds : List Rule → Bool
  | [] => true
  | r :: rest => rest.all (·.id ≠ r.id) && distinctIds rest

namespace Snapshot

/-- Rules whose ids differ. -/
def checkRules (v : Json) : Checked (List Rule) :=
  (Checked.list .notList Rule.check v).andThen fun rules =>
    if distinctIds rules then .valid rules else Checked.fault .contradiction

/-- The snapshot of a record; one without a moment was made `now`. -/
def check (origin : Checked.Origin) (now : Moment) : Json → Checked Snapshot :=
  Checked.record fun es => Snapshot.mk
    <$> Checked.withDefault "rules" [] checkRules es
    <*> Checked.withDefault "created_at" now (Checked.moment origin) es
    <*> Checked.withDefault "tool_version" none (Checked.orNull Checked.text) es

/-- The snapshot of rules that are known already. -/
def make (rules : List Rule) (now : Moment) (toolVersion : Option Text) : Checked Snapshot :=
  if distinctIds rules then .valid ⟨rules, now, toolVersion⟩
  else .invalid [⟨.contradiction, [.key "rules"]⟩]

/-- The record of a snapshot. -/
def toJson (s : Snapshot) : Json := .object [
  ("rules", .list (s.rules.map Rule.toJson)),
  ("created_at", .text s.createdAt.snapshotText),
  ("tool_version", .ofTextOption s.toolVersion)]

/-- The levels of a snapshot's record above the records of its rules. -/
def levelsAboveRules : Nat := 2

/-- The content of a file that holds the snapshot, or why it cannot be written. -/
def text (s : Snapshot) : Except UnwritableJson Text :=
  match s.toJson.unwritable? (levelsAboveRules + Rule.maxLevels) with
  | some fault => .error fault
  | none => .ok s.toJson.pretty

/-- The snapshot that a file's content holds. -/
def ofText (now : Moment) (content : Text) : Checked Snapshot := Checked.ofJsonText (check .jsonText now) content

end Snapshot

end LintPreview
