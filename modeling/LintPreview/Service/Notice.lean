import LintPreview.Service.Act

/-!
Notices: the lines in which services tell on the console what they do.

* `Notice.line`: the line of a notice: time, level, event, and what is known of it.
* `Job.announce`: shows a notice. A lone half in its line cannot be shown, and the job fails.
-/

namespace LintPreview

/-- A notice: how grave it is, what has happened, and what is known of it under keys in alphabetical order. -/
structure Notice where
  level : Text
  event : Text
  facts : List (Text × Text) := []
deriving Repr

namespace Notice

/-- The width of a time of day with its date. -/
def timeWidth : Nat := 19

/-- The width of a level. -/
def levelWidth : Nat := 9

/-- The width of an event, if it is not longer. -/
def eventWidth : Nat := 30

/-- Characters that put a value in quotes. -/
def marks : List Char := [' ', '\t', '=', '\r', '\n', '"', '\'']

/-- A text with blanks behind it up to a width. -/
def padded (width : Nat) (s : Text) : Text := s ++ Text.ofList (List.replicate (width - s.length) ' ')

/-- A value as it is shown. -/
def shown (value : Text) : Text := if value.toList.any fun c => c.isAnyOf marks then Text.quoted value else value

/-- The line of a notice at a time. -/
def line (n : Notice) (time : Text) : Text :=
  Text.intercalate " " (time :: ("[" ++ padded levelWidth n.level ++ "]") :: padded eventWidth n.event ::
    n.facts.map fun f => f.1 ++ "=" ++ shown f.2)

/-- The first run of lone halves in the line of a notice. -/
def lost? (n : Notice) : Option Text.LoneHalves :=
  match Text.encode (n.line (padded timeWidth Text.empty)) with
  | .ok _ => none
  | .error run => some run

/-- A rule has been simulated. -/
def simulated (rule : Text) (violations files : Nat) : Notice :=
  ⟨"info", "Simulated rule",
    [("affected_files", .ofNat files), ("rule_id", rule), ("violation_count", .ofNat violations)]⟩

/-- The simulation of a rule has failed. -/
def simulationFailed (rule error : Text) : Notice :=
  ⟨"warning", "Simulation failed", [("error", error), ("rule_id", rule)]⟩

/-- A rule keeps what is known of it because the tool tells no more. -/
def detailsMissing (rule error : Text) : Notice :=
  ⟨"warning", "Could not fetch rule details", [("error", error), ("rule_id", rule)]⟩

/-- The tool does not tell its version. -/
def versionMissing (error : Text) : Notice :=
  ⟨"warning", "Could not determine lint tool version", [("error", error)]⟩

/-- The rules do not come from a source. -/
def sourceFailed (source error : Text) : Notice :=
  ⟨"warning", "Rule source failed", [("error", error), ("source", source)]⟩

/-- The rules have come from the tool. -/
def loaded (count : Nat) (version : Option Text) : Notice :=
  ⟨"info", "Loaded rule catalog from lint tool",
    [("rule_count", .ofNat count), ("tool_version", version.getD "None")]⟩

/-- The rules have not been kept as a snapshot. -/
def snapshotFailed (file error : Text) : Notice :=
  ⟨"warning", "Failed to write rule cache", [("error", error), ("path", file)]⟩

end Notice

namespace Job

/-- Shows a notice. -/
def announce (n : Notice) : Job Unit :=
  match n.lost? with
  | some run => fail (.unencodable run.message)
  | none => pure ()

end Job

end LintPreview
