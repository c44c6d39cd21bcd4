import LintPreview.Proofs.Files.Names
import LintPreview.Proofs.Simulation.Findings

/-!
# Files as they are seen from a workspace

* `Path.IsUnder`: a path lies at a directory or below it, by its name alone.
* `Path.relativeTo?_eq_some_iff`: the way from a directory to a path under it, which leads there (`Path.join_relativeTo?`).
* `ofString_relativeToWorkspace`: the path that the name of a file names when it is seen from a workspace.
* `relativeToWorkspace_under`: seen from an absolute workspace a name still names the same file, and a name without a
  root is one that is under the workspace or had no root before; looking at it once more changes nothing. So the files
  of two findings have one name only if they are one file.
-/

namespace LintPreview

namespace Path

variable {p q base : Path}

/-- The path lies at a directory or below it, by its name. -/
def IsUnder (p directory : Path) : Prop := p.root = directory.root ∧ directory.parts <+: p.parts

instance (p directory : Path) : Decidable (p.IsUnder directory) :=
  inferInstanceAs (Decidable (p.root = directory.root ∧ directory.parts <+: p.parts))

theorem dropBeginning?_eq_some_iff {xs ys rest : List Text} : dropBeginning? xs ys = some rest ↔ xs = ys ++ rest := by
  induction ys generalizing xs with
  | nil => simp [dropBeginning?, eq_comm]
  | cons y ys ih =>
    cases xs with
    | nil => simp [dropBeginning?]
    | cons x xs =>
      rw [dropBeginning?, List.cons_append, List.cons.injEq, ← ih]
      by_cases hxy : x = y <;> simp [hxy]

/-- The way from a directory to a path has no root, and what it adds to the directory is the path. -/
theorem relativeTo?_eq_some_iff :
    p.relativeTo? base = some q ↔ q.root = .relative ∧ p.root = base.root ∧ p.parts = base.parts ++ q.parts := by
  obtain ⟨root, parts⟩ := q
  rw [relativeTo?, Option.ite_none_right_eq_some, Option.map_eq_some_iff]
  simp only [dropBeginning?_eq_some_iff, mk.injEq]
  constructor
  · rintro ⟨hroot, rest, hparts, rfl, rfl⟩
    exact ⟨rfl, hroot, hparts⟩
  · rintro ⟨rfl, hroot, hparts⟩
    exact ⟨hroot, parts, hparts, rfl, rfl⟩

/-- There is a way from a directory to the paths under it. -/
theorem relativeTo?_eq_none_iff : p.relativeTo? base = none ↔ ¬ p.IsUnder base := by
  rw [← not_iff_not, not_not, ← ne_eq, Option.ne_none_iff_exists']
  simp only [relativeTo?_eq_some_iff]
  constructor
  · rintro ⟨q, -, hroot, hparts⟩
    exact ⟨hroot, q.parts, hparts.symm⟩
  · rintro ⟨hroot, rest, hparts⟩
    exact ⟨⟨.relative, rest⟩, rfl, hroot, hparts.symm⟩

theorem isAbsolute_eq_false_iff : p.isAbsolute = false ↔ p.root = .relative := by simp [isAbsolute]

/-- The way from a directory to a path leads there. -/
theorem join_relativeTo? (h : p.relativeTo? base = some q) : base.join q = p := by
  obtain ⟨hq, hroot, hparts⟩ := relativeTo?_eq_some_iff.mp h
  rw [join, isAbsolute_eq_false_iff.mpr hq, if_neg Bool.false_ne_true, ← hroot, ← hparts]

theorem IsRegular.relativeTo? (hp : p.IsRegular) (h : p.relativeTo? base = some q) : q.IsRegular := by
  obtain ⟨-, -, hparts⟩ := relativeTo?_eq_some_iff.mp h
  intro part hpart
  exact hp part (hparts ▸ List.mem_append_right _ hpart)

/-- A path without a root lies under no absolute one. -/
theorem not_isUnder_of_root (hp : p.root = .relative) (hbase : base.isAbsolute = true) : ¬ p.IsUnder base := by
  rintro ⟨hroot, -⟩
  rw [isAbsolute_eq_false_iff.mpr (hroot.symm.trans hp)] at hbase
  cases hbase

end Path

/-! ### Names of files -/

variable {file w : Text}

/-- What the name of a file names when it is seen from a workspace. -/
theorem ofString_relativeToWorkspace (file w : Text) : Path.ofString (relativeToWorkspace file (some w)) =
    ((Path.ofString file).relativeTo? (Path.ofString w)).getD (Path.ofString file) := by
  unfold relativeToWorkspace
  dsimp only
  cases hway : (Path.ofString file).relativeTo? (Path.ofString w) with
  | none => rfl
  | some way => exact Path.ofString_toString ((Path.isRegular_ofString file).relativeTo? hway)

/-- Files that are not under a workspace keep their name. -/
theorem relativeToWorkspace_of_not_isUnder (h : ¬ (Path.ofString file).IsUnder (Path.ofString w)) :
    relativeToWorkspace file (some w) = file := by
  unfold relativeToWorkspace
  dsimp only
  rw [Path.relativeTo?_eq_none_iff.mpr h]

/-- A name seen from a workspace has no root if the file lies under it, or was named without a root. -/
theorem isAbsolute_relativeToWorkspace (file w : Text) :
    (Path.ofString (relativeToWorkspace file (some w))).isAbsolute = false ↔
      (Path.ofString file).isAbsolute = false ∨ (Path.ofString file).IsUnder (Path.ofString w) := by
  rw [ofString_relativeToWorkspace]
  cases hway : (Path.ofString file).relativeTo? (Path.ofString w) with
  | none => simp [Path.relativeTo?_eq_none_iff.mp hway]
  | some way =>
    obtain ⟨hrelative, hroot, hparts⟩ := Path.relativeTo?_eq_some_iff.mp hway
    exact iff_of_true (Path.isAbsolute_eq_false_iff.mpr hrelative) (.inr ⟨hroot, way.parts, hparts.symm⟩)

section

variable (hw : (Path.ofString w).isAbsolute = true)

include hw

/-- Read from an absolute workspace, a name seen from there names what the name of the file does. -/
theorem join_relativeToWorkspace (file : Text) :
    (Path.ofString w).join (Path.ofString (relativeToWorkspace file (some w))) =
      (Path.ofString w).join (Path.ofString file) := by
  rw [ofString_relativeToWorkspace]
  cases hway : (Path.ofString file).relativeTo? (Path.ofString w) with
  | none => rfl
  | some way =>
    obtain ⟨-, hroot, -⟩ := Path.relativeTo?_eq_some_iff.mp hway
    have hfile : (Path.ofString file).isAbsolute = true := by rwa [Path.isAbsolute, hroot]
    rw [Option.getD_some, Path.join_relativeTo? hway, Path.join, if_pos hfile]

/-- A name seen from an absolute workspace is not under it any more. -/
theorem not_isUnder_relativeToWorkspace (file : Text) :
    ¬ (Path.ofString (relativeToWorkspace file (some w))).IsUnder (Path.ofString w) := by
  rw [ofString_relativeToWorkspace]
  cases hway : (Path.ofString file).relativeTo? (Path.ofString w) with
  | none => exact Path.relativeTo?_eq_none_iff.mp hway
  | some way => exact Path.not_isUnder_of_root (Path.relativeTo?_eq_some_iff.mp hway).1 hw

/-- The names of files as they are seen from an absolute workspace. Each one names the same file from there; it has no
root exactly if the file was named without a root or lies under the workspace by its name; seen once more it stays as it
is. So the violations of two records are in a file of one name only if the records name one file. -/
theorem relativeToWorkspace_under :
    (∀ file, (Path.ofString w).join (Path.ofString (relativeToWorkspace file (some w))) =
        (Path.ofString w).join (Path.ofString file) ∧
      ((Path.ofString (relativeToWorkspace file (some w))).isAbsolute = false ↔
        (Path.ofString file).isAbsolute = false ∨ (Path.ofString file).IsUnder (Path.ofString w)) ∧
      relativeToWorkspace (relativeToWorkspace file (some w)) (some w) = relativeToWorkspace file (some w)) ∧
    ∀ record record' v v', Violation.ofRecord? (some w) record = some v →
      Violation.ofRecord? (some w) record' = some v' → v.filePath = v'.filePath →
      ∃ file file', record.field "file" = .text file ∧ record'.field "file" = .text file' ∧
        (Path.ofString w).join (Path.ofString file) = (Path.ofString w).join (Path.ofString file') := by
  refine ⟨fun file => ⟨join_relativeToWorkspace hw file, isAbsolute_relativeToWorkspace file w,
    relativeToWorkspace_of_not_isUnder (not_isUnder_relativeToWorkspace hw file)⟩, ?_⟩
  intro record record' v v' hv hv' hpath
  obtain ⟨file, hfile, hseen⟩ := (Violation.reports_of_ofRecord? hv).file
  obtain ⟨file', hfile', hseen'⟩ := (Violation.reports_of_ofRecord? hv').file
  refine ⟨file, file', hfile, hfile', ?_⟩
  rw [← join_relativeToWorkspace hw file, ← join_relativeToWorkspace hw file', ← hseen, ← hseen', hpath]

end

/-- A workspace behind two slashes, a file in it and one next to it whose name begins in the same way. -/
theorem relativeToWorkspace_under_twoSlashes :
    (Path.ofString "//w/app").isAbsolute = true ∧
    relativeToWorkspace "//w//app/./Sources/../A.swift" (some "//w/app") = "Sources/../A.swift" ∧
    (Path.ofString "//w/app").join (Path.ofString "Sources/../A.swift") = Path.ofString "//w/app/Sources/../A.swift" ∧
    ¬ (Path.ofString "//w/app2/A.swift").IsUnder (Path.ofString "//w/app") ∧
    (Path.ofString (relativeToWorkspace "//w/app2/A.swift" (some "//w/app"))).isAbsolute = true := by
  have hw : (Path.ofString "//w/app").isAbsolute = true := by decide +kernel
  have hunder := (relativeToWorkspace_under hw).1
  have hseen : relativeToWorkspace "//w//app/./Sources/../A.swift" (some "//w/app") = "Sources/../A.swift" := by decide +kernel
  have hout : ¬ (Path.ofString "//w/app2/A.swift").IsUnder (Path.ofString "//w/app") := by decide +kernel
  refine ⟨hw, hseen, ?_, hout, ?_⟩
  · have hjoin := (hunder "//w//app/./Sources/../A.swift").1
    rw [hseen] at hjoin
    exact hjoin.trans (by decide +kernel)
  · by_contra hrelative
    rcases (hunder "//w/app2/A.swift").2.1.mp (Bool.not_eq_true _ ▸ hrelative) with hroot | hbelow
    · exact absurd hroot (by decide +kernel)
    · exact hout hbelow

end LintPreview
