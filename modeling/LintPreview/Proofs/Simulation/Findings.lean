import LintPreview.Simulation.Simulate
import Mathlib.Data.List.Forall2
import Mathlib.Data.List.Nodup
import Mathlib.Order.Lattice

/-!
# The findings of a rule

* `isFindingOf`: the records of a report that name a rule and have all the texts of a violation.
* `Violation.Reports`: what a violation tells of its record.
* `forall₂_reports`: the violations of a rule are those of its findings, one for each, in order.
* `ascending_sortedDistinct`, `mem_sortedDistinct`: distinct texts in ascending order.
* `SimulationResult.Finds`: a result tells of all findings of its rule, and of nothing else.
-/

namespace LintPreview

variable {workspace : Option Text} {rule : Text} {record : Json}

/-! ### Records -/

/-- Whether a record names a rule and has all the texts of a violation. -/
def isFindingOf (rule : Text) (record : Json) : Bool :=
  record.field "rule_id" = .text rule &&
    (["reason", "severity", "file"] : List Text).all fun key => (record.field key).asText?.isSome

/-- What a violation tells of its record. -/
structure Violation.Reports (workspace : Option Text) (record : Json) (v : Violation) : Prop where
  ruleId : record.field "rule_id" = .text v.ruleId
  message : record.field "reason" = .text v.message
  severity : ∃ word, record.field "severity" = .text word ∧ v.severity = .ofText word
  file : ∃ file, record.field "file" = .text file ∧ v.filePath = relativeToWorkspace file workspace
  line : v.line = (positiveInt? (record.field "line")).getD 1
  column : v.column = positiveInt? ((record.get? "character").getD (record.field "column"))

theorem Violation.reports_of_ofRecord? {v : Violation} (h : Violation.ofRecord? workspace record = some v) :
    v.Reports workspace record := by
  unfold Violation.ofRecord? at h
  split at h
  · rename_i ruleId reason severity file hrule hreason hseverity hfile
    cases h
    exact ⟨Json.asText?_eq_some_iff.mp hrule, Json.asText?_eq_some_iff.mp hreason,
      ⟨severity, Json.asText?_eq_some_iff.mp hseverity, rfl⟩, ⟨file, Json.asText?_eq_some_iff.mp hfile, rfl⟩, rfl, rfl⟩
  · cases h

/-- The findings of a rule are the records with a violation of it. -/
theorem isFindingOf_iff : isFindingOf rule record = true ↔
    ∃ v, Violation.ofRecord? workspace record = some v ∧ v.ruleId = rule := by
  constructor
  · intro h
    simp only [isFindingOf, Bool.and_eq_true, decide_eq_true_eq, List.all_cons, List.all_nil, Option.isSome_iff_exists] at h
    obtain ⟨hrule, ⟨reason, hreason⟩, ⟨severity, hseverity⟩, ⟨file, hfile⟩, -⟩ := h
    rw [← Json.asText?_eq_some_iff] at hrule
    unfold Violation.ofRecord?
    rw [hrule, hreason, hseverity, hfile]
    exact ⟨_, rfl, rfl⟩
  · rintro ⟨v, hv, rfl⟩
    have hreports := Violation.reports_of_ofRecord? hv
    obtain ⟨word, hword, -⟩ := hreports.severity
    obtain ⟨file, hfile, -⟩ := hreports.file
    simp [isFindingOf, hreports.ruleId, hreports.message, hword, hfile, Json.asText?]

/-- The violations of a rule tell of its findings, one of each, in order. -/
theorem forall₂_reports (workspace : Option Text) (rule : Text) (records : List Json) :
    List.Forall₂ (Violation.Reports workspace) (records.filter (isFindingOf rule))
      ((violationsOfRecords workspace records).filter (·.ruleId = rule)) := by
  induction records with
  | nil => exact .nil
  | cons record records ih =>
    have hiff : isFindingOf rule record = true ↔
        ∃ v, Violation.ofRecord? workspace record = some v ∧ v.ruleId = rule := isFindingOf_iff
    unfold violationsOfRecords
    cases hv : Violation.ofRecord? workspace record with
    | none =>
      rw [List.filterMap_cons_none hv, List.filter_cons_of_neg]
      · exact ih
      · rw [hiff, hv]
        rintro ⟨_, ⟨⟩, -⟩
    | some v =>
      rw [List.filterMap_cons_some hv]
      by_cases hrule : v.ruleId = rule
      · rw [List.filter_cons_of_pos (hiff.mpr ⟨v, hv, hrule⟩), List.filter_cons_of_pos (by simpa using hrule)]
        exact .cons (Violation.reports_of_ofRecord? hv) ih
      · rw [List.filter_cons_of_neg, List.filter_cons_of_neg (by simpa using hrule)]
        · exact ih
        · rw [hiff, hv]
          rintro ⟨_, ⟨⟩, heq⟩
          exact hrule heq

/-- The files of violations are those of their records, as seen from the workspace. -/
theorem mem_map_filePath_iff {records : List Json} {vs : List Violation}
    (h : List.Forall₂ (Violation.Reports workspace) records vs) {path : Text} :
    path ∈ vs.map Violation.filePath ↔
      ∃ record ∈ records, ∃ file, record.field "file" = .text file ∧ path = relativeToWorkspace file workspace := by
  induction h with
  | nil => simp
  | cons hreports _ ih =>
    obtain ⟨file, hfile, hpath⟩ := hreports.file
    rw [List.map_cons, List.mem_cons, ih, List.exists_mem_cons_iff, hfile, hpath]
    simp

/-! ### Files -/

theorem nodup_eraseDups {α : Type} [DecidableEq α] (as : List α) : as.eraseDups.Nodup := by
  induction h : as.length using Nat.strong_induction_on generalizing as with
  | _ n ih =>
    cases as with
    | nil => exact List.nodup_nil
    | cons a as =>
      rw [List.eraseDups_cons, List.nodup_cons, List.mem_eraseDups, List.mem_filter]
      refine ⟨by simp, ih _ ?_ _ rfl⟩
      rw [← h]
      exact Nat.lt_succ_of_le (List.length_filter_le _ as)

/-- Texts in ascending order, each of them once. -/
abbrev Ascending (texts : List Text) : Prop := texts.Pairwise fun a b => a ≤ b ∧ a ≠ b

theorem ascending_sortedDistinct (texts : List Text) : Ascending (sortedDistinct texts) := by
  have hsorted : (sortedDistinct texts).Pairwise fun a b => decide (a ≤ b) = true := by
    refine List.pairwise_mergeSort (fun a b c hab hbc => ?_) (fun a b => ?_) _
    · rw [decide_eq_true_eq] at hab hbc ⊢
      exact List.le_trans hab hbc
    · rw [Bool.or_eq_true, decide_eq_true_eq, decide_eq_true_eq]
      exact List.le_total _ _
  have hdistinct : (sortedDistinct texts).Nodup := (List.mergeSort_perm _ _).nodup_iff.mpr (nodup_eraseDups texts)
  exact (hsorted.imp fun h => of_decide_eq_true h).and hdistinct

theorem mem_sortedDistinct {text : Text} {texts : List Text} : text ∈ sortedDistinct texts ↔ text ∈ texts := by
  rw [sortedDistinct, List.mem_mergeSort, List.mem_eraseDups]

/-! ### Results -/

/-- A result tells of the findings of a rule among records, and of nothing else. -/
structure SimulationResult.Finds (workspace : Text) (rule : Text) (records : List Json) (r : SimulationResult) : Prop where
  ruleId : r.ruleId = rule
  /-- There is one violation for each finding, in order. -/
  violations : List.Forall₂ (Violation.Reports (some workspace)) (records.filter (isFindingOf rule)) r.violations
  count : r.violations.length = records.countP (isFindingOf rule)
  ascending : Ascending r.affectedFiles
  /-- The files are those of the findings, as seen from the workspace. -/
  files : ∀ path, path ∈ r.affectedFiles ↔ ∃ record ∈ records, isFindingOf rule record = true ∧
    ∃ file, record.field "file" = .text file ∧ path = relativeToWorkspace file (some workspace)
  isSafe : r.isSafe = true ↔ ∀ record ∈ records, isFindingOf rule record = false

theorem SimulationResult.finds (workspace : Text) (records : List Json) (r : SimulationResult)
    (h : r.violations = (violationsOfRecords (some workspace) records).filter (·.ruleId = r.ruleId)) :
    r.Finds workspace r.ruleId records := by
  have hreports := h ▸ forall₂_reports (some workspace) r.ruleId records
  have hlength : r.violations.length = records.countP (isFindingOf r.ruleId) := by
    rw [← hreports.length_eq, List.countP_eq_length_filter]
  refine ⟨rfl, hreports, hlength, ascending_sortedDistinct _, fun path => ?_, ?_⟩
  · rw [affectedFiles, mem_sortedDistinct, mem_map_filePath_iff hreports]
    simp only [List.mem_filter, and_assoc]
  · rw [isSafe, List.isEmpty_iff, ← List.length_eq_zero_iff, hlength, List.countP_eq_zero]
    simp

end LintPreview
