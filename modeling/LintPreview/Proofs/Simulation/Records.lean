import LintPreview.Proofs.Json.Sound
import LintPreview.Proofs.Schema.Checked
import LintPreview.Proofs.Simulation.Findings

/-!
# Reports of any records

* `Json.isComplete`: a record with all the texts of a violation.
* `Violation.check_toJson_iff`: a violation meets its declaration if its line and its column are above zero.
* `Violation.IsOf`: what a violation tells of its record, within these bounds.
* `forall₂_isOf`: there is one violation for each complete record, in order.
* `WithMalformed`: one list of records is another one with malformed records put in.
* `readViolations_of_array`: an array of any records is read, and only its complete records count.
-/

namespace LintPreview

variable {workspace : Option Text} {record : Json} {records records' : List Json}

/-! ### Complete records -/

/-- Whether a record is an object with all the texts of a violation. -/
def Json.isComplete : Json → Bool
  | .object entries => (["rule_id", "reason", "severity", "file"] : List Text).all fun key =>
      match valueUnder? key entries with
      | some (.text _) => true
      | _ => false
  | _ => false

theorem Json.isComplete_iff : record.isComplete = true ↔
    (∃ s, record.field "rule_id" = .text s) ∧ (∃ s, record.field "reason" = .text s) ∧
      (∃ s, record.field "severity" = .text s) ∧ ∃ s, record.field "file" = .text s := by
  have hobject : ∀ (entries : List (Text × Json)) (key : Text), (match valueUnder? key entries with
      | some (.text _) => true
      | _ => false) = true ↔ ∃ s, (Json.object entries).field key = .text s := by
    intro entries key
    rw [field, get?]
    split
    · rename_i s hs
      simp [hs]
    · rename_i hne
      cases hv : valueUnder? key entries with
      | none => simp
      | some v =>
        simp only [Option.getD_some, Bool.false_eq_true, false_iff, not_exists]
        rintro s rfl
        exact hne s hv
  cases record with
  | object entries =>
    simp only [isComplete, List.all_cons, List.all_nil, Bool.and_eq_true, and_true, hobject]
  | _ => simp [isComplete, field, get?]

/-- A record has a violation if it is complete. -/
theorem isSome_ofRecord? (workspace : Option Text) (record : Json) :
    (Violation.ofRecord? workspace record).isSome = record.isComplete := by
  rw [Bool.eq_iff_iff, Json.isComplete_iff, Option.isSome_iff_exists]
  constructor
  · rintro ⟨v, hv⟩
    have hreports := Violation.reports_of_ofRecord? hv
    obtain ⟨word, hword, -⟩ := hreports.severity
    obtain ⟨file, hfile, -⟩ := hreports.file
    exact ⟨⟨_, hreports.ruleId⟩, ⟨_, hreports.message⟩, ⟨_, hword⟩, ⟨_, hfile⟩⟩
  · rintro ⟨⟨ruleId, hrule⟩, ⟨reason, hreason⟩, ⟨severity, hseverity⟩, ⟨file, hfile⟩⟩
    rw [Violation.ofRecord?, hrule, hreason, hseverity, hfile]
    exact ⟨_, rfl⟩

/-! ### Bounds -/

theorem Checked.atLeast_int_eq_valid_iff {least i j : ℤ} :
    Checked.atLeast least (.int i) = .valid j ↔ least ≤ i ∧ i = j := by
  show (if i < least then Checked.fault .tooSmall else .valid i) = .valid j ↔ _
  split
  · refine ⟨nofun, ?_⟩
    rintro ⟨hle, -⟩
    omega
  · rw [Checked.valid.injEq]
    omega

theorem Checked.orNull_atLeast_eq_valid_iff {least : ℤ} {number : Option ℤ} :
    Checked.orNull (Checked.atLeast least) ((number.map Json.int).getD .null) = .valid number ↔
      ∀ i ∈ number, least ≤ i := by
  cases number with
  | none => simp [Checked.orNull]
  | some i =>
    show some <$> Checked.atLeast least (.int i) = .valid (some i) ↔ _
    rw [Checked.map_eq_valid_iff]
    simp [Checked.atLeast_int_eq_valid_iff]

theorem Severity.choice_key (severity : Severity) :
    Checked.choice Severity.ofKey? (.text severity.key) = .valid severity := by
  cases severity <;> rfl

/-- A violation meets its declaration if its line and its column are above zero. -/
theorem Violation.check_toJson_iff {v : Violation} :
    Violation.check v.toJson = .valid v ↔ 1 ≤ v.line ∧ ∀ c ∈ v.column, 1 ≤ c := by
  show Violation.mk <$> Checked.valid v.ruleId
      <*> Checked.valid v.filePath
      <*> (Checked.atLeast 1 (.int v.line)).within (.key "line")
      <*> (Checked.orNull (Checked.atLeast 1) ((v.column.map Json.int).getD .null)).within (.key "column")
      <*> (Checked.choice Severity.ofKey? (.text v.severity.key)).within (.key "severity")
      <*> Checked.valid v.message = .valid v ↔ _
  rw [Severity.choice_key, ← Checked.orNull_atLeast_eq_valid_iff]
  constructor
  · intro h
    cases hline : Checked.atLeast 1 (.int v.line) with
    | invalid faults =>
      rw [hline] at h
      cases hcolumn : Checked.orNull (Checked.atLeast 1) ((v.column.map Json.int).getD .null) <;>
        (rw [hcolumn] at h; cases h)
    | valid line =>
      cases hcolumn : Checked.orNull (Checked.atLeast 1) ((v.column.map Json.int).getD .null) with
      | invalid faults =>
        rw [hline, hcolumn] at h
        cases h
      | valid column =>
        rw [hline, hcolumn] at h
        have hv := Checked.valid.inj h
        exact ⟨(Checked.atLeast_int_eq_valid_iff.mp hline).1, by rw [← congrArg Violation.column hv]⟩
  · rintro ⟨hline, hcolumn⟩
    rw [Checked.atLeast_int_eq_valid_iff.mpr ⟨hline, rfl⟩, hcolumn]
    rfl

theorem positiveInt?_eq_some_iff {v : Json} {i : ℤ} : positiveInt? v = some i ↔ v = .int i ∧ 1 ≤ i := by
  unfold positiveInt?
  split
  · rename_i j
    rw [Option.ite_none_right_eq_some, Option.some.injEq, Json.int.injEq]
    constructor
    · rintro ⟨hpos, rfl⟩
      exact ⟨rfl, hpos⟩
    · rintro ⟨rfl, hpos⟩
      exact ⟨hpos, rfl⟩
  · rename_i hne
    refine ⟨nofun, ?_⟩
    rintro ⟨rfl, -⟩
    exact absurd rfl (hne i)

/-- What a violation tells of its record, within the bounds of its declaration. -/
structure Violation.IsOf (workspace : Option Text) (record : Json) (v : Violation) : Prop
    extends v.Reports workspace record where
  line_pos : 1 ≤ v.line
  /-- A whole line above zero is kept. -/
  line_eq : ∀ i : ℤ, record.field "line" = .int i → 1 ≤ i → v.line = i
  column_pos : ∀ c ∈ v.column, 1 ≤ c
  declared : Violation.check v.toJson = .valid v

theorem Violation.isOf_of_ofRecord? {v : Violation} (h : Violation.ofRecord? workspace record = some v) :
    v.IsOf workspace record := by
  have hreports := reports_of_ofRecord? h
  have hline : 1 ≤ v.line := by
    rw [hreports.line]
    cases hpos : positiveInt? (record.field "line") with
    | none => exact le_rfl
    | some i => exact (positiveInt?_eq_some_iff.mp hpos).2
  have hcolumn : ∀ c ∈ v.column, 1 ≤ c := by
    intro c hc
    rw [hreports.column] at hc
    exact (positiveInt?_eq_some_iff.mp hc).2
  refine ⟨hreports, hline, ?_, hcolumn, check_toJson_iff.mpr ⟨hline, hcolumn⟩⟩
  intro i hi hpos
  rw [hreports.line, positiveInt?_eq_some_iff.mpr ⟨hi, hpos⟩]
  rfl

/-! ### Lists of records -/

/-- There is one violation for each complete record, in order. -/
theorem forall₂_isOf (workspace : Option Text) (records : List Json) :
    List.Forall₂ (Violation.IsOf workspace) (records.filter Json.isComplete)
      (violationsOfRecords workspace records) := by
  unfold violationsOfRecords
  induction records with
  | nil => exact .nil
  | cons record records ih =>
    have hsome := isSome_ofRecord? workspace record
    rw [List.filter_cons]
    cases hv : Violation.ofRecord? workspace record with
    | none =>
      rw [hv] at hsome
      rw [List.filterMap_cons_none hv, ← hsome]
      exact ih
    | some v =>
      rw [hv] at hsome
      rw [List.filterMap_cons_some hv, ← hsome]
      exact .cons (Violation.isOf_of_ofRecord? hv) ih

/-- The second list is the first one with malformed records put in. -/
inductive WithMalformed : List Json → List Json → Prop where
  | nil : WithMalformed [] []
  | keep (record : Json) {records records' : List Json} (rest : WithMalformed records records') :
      WithMalformed (record :: records) (record :: records')
  | insert {record : Json} (malformed : record.isComplete = false) {records records' : List Json}
      (rest : WithMalformed records records') : WithMalformed records (record :: records')

/-- Malformed records put in leave no trace. -/
theorem WithMalformed.violationsOfRecords_eq (h : WithMalformed records records') :
    violationsOfRecords workspace records' = violationsOfRecords workspace records := by
  unfold violationsOfRecords
  induction h with
  | nil => rfl
  | keep record _ ih => rw [List.filterMap_cons, List.filterMap_cons, ih]
  | insert malformed _ ih =>
    rw [← isSome_ofRecord? workspace, Option.isSome_eq_false_iff, Option.isNone_iff_eq_none] at malformed
    rw [List.filterMap_cons_none malformed, ih]

/-! ### Reports -/

theorem readViolations_of_read {output : Text} (h : Json.read output = .ok (.list records)) :
    readViolations output workspace = .ok (violationsOfRecords workspace records) := by
  rw [readViolations, if_neg, h]
  rw [List.isEmpty_iff]
  exact Json.trimChars_ne_nil_of_read h

/-- An array of any records is read. There is one violation for each complete record, in order and within its bounds,
and malformed records put in anywhere leave no trace. -/
theorem readViolations_of_array {output : Text} (workspace : Option Text) (h : Json.read output = .ok (.list records)) :
    ∃ vs, readViolations output workspace = .ok vs ∧
      List.Forall₂ (Violation.IsOf workspace) (records.filter Json.isComplete) vs ∧
      ∀ output' records', Json.read output' = .ok (.list records') → WithMalformed records records' →
        readViolations output' workspace = .ok vs := by
  refine ⟨_, readViolations_of_read h, forall₂_isOf workspace records, ?_⟩
  intro output' records' h' hmalformed
  rw [readViolations_of_read h', hmalformed.violationsOfRecords_eq]

/-- A report with three records, of which the last one is complete; its line is no number. -/
def mixedReport : Text :=
  "[null, \x7b\"rule_id\": \"r\", \"reason\": \"m\", \"severity\": 1, \"file\": \"a\"\x7d, \x7b\"rule_id\": \"r\", " ++
    "\"reason\": \"m\", \"severity\": \"error\", \"file\": \"/w/a\", \"line\": true, \"character\": -1\x7d]"

/-- The records of this report. -/
def mixedRecords : List Json := [
  .null,
  .object [("rule_id", .text "r"), ("reason", .text "m"), ("severity", .int 1), ("file", .text "a")],
  .object [("rule_id", .text "r"), ("reason", .text "m"), ("severity", .text "error"), ("file", .text "/w/a"),
    ("line", .bool true), ("character", .int (-1))]]

theorem readViolations_mixedReport :
    Json.read mixedReport = .ok (.list mixedRecords) ∧
    ∃ vs, readViolations mixedReport (some "/w") = .ok vs ∧
      List.Forall₂ (Violation.IsOf (some "/w")) (mixedRecords.filter Json.isComplete) vs ∧
      ∀ output' records', Json.read output' = .ok (.list records') → WithMalformed mixedRecords records' →
        readViolations output' (some "/w") = .ok vs :=
  have hread : Json.read mixedReport = .ok (.list mixedRecords) := by decide +kernel
  ⟨hread, readViolations_of_array _ hread⟩

example : readViolations mixedReport (some "/w") =
    .ok [⟨"r", "a", 1, none, .error, "m"⟩] := by
  decide +kernel

end LintPreview
