import LintPreview.Proofs.Files.Unusable
import LintPreview.Proofs.Overlay.Keys
import LintPreview.Proofs.Yaml.Meaningless

/-!
# What reading a baseline comes to

* `BaselineError.Escapes`: the failures that are not reported as those of an invalid baseline: the path cannot be used,
  or the text in the file has no meaning.
* `readBaseline_ends`: reading gives a configuration or reports an invalid baseline, except for these, which escape
  exactly from the paths and files that they are told for.
-/

namespace LintPreview

variable {t : FileTree} {p : Path} {e : BaselineError}

/-- The failures of reading that are not reported as those of an invalid baseline. -/
inductive BaselineError.Escapes (t : FileTree) (p : Path) : BaselineError → Prop where
  | path {fault : PathFault} (unusable : p.IsUnusable fault) : Escapes t p (.path fault)
  | value {content : List UInt8} {text : List CodePoint} {fault : Yaml.Fault} (file : t.HasFile p content)
      (decoded : FileTree.textOf content = .ok text) (document : Document.ofYaml text = .error fault)
      (formed : fault ≠ .malformed) (meaningless : Yaml.Meaningless text fault) : Escapes t p (.value fault)

/-- A text that is no configuration is an invalid baseline, or what it holds has no meaning. -/
theorem error_of_baselineOfText {path : Text} {text : List CodePoint} (h : baselineOfText path text = .error e) :
    (∃ fault, e = .invalid path fault) ∨
      ∃ fault, e = .value fault ∧ Document.ofYaml text = .error fault ∧ fault ≠ .malformed := by
  unfold baselineOfText at h
  split at h
  · cases h
    exact .inl ⟨_, rfl⟩
  · rename_i fault hformed hdocument
    cases h
    exact .inr ⟨fault, rfl, hdocument, hformed⟩
  · cases h
  · split at h
    · cases h
      exact .inl ⟨_, rfl⟩
    · cases h
  · cases h
    exact .inl ⟨_, rfl⟩

/-- The failure of a read is reported as that of an invalid baseline, or it escapes. -/
theorem error_of_baselineOfRead (h : baselineOfRead p (t.readBytes p) = .error e) :
    (∃ fault, e = .invalid p.toString fault) ∨ e.Escapes t p := by
  cases hread : t.readBytes p with
  | error fault =>
    rw [hread] at h
    cases fault with
    | file fault =>
      cases h
      exact .inl ⟨_, rfl⟩
    | unencodable run =>
      cases h
      exact .inr (.path ((FileTree.readBytes_eq_error_iff (by rintro e ⟨⟩)).mp hread))
    | embeddedNull =>
      cases h
      exact .inr (.path ((FileTree.readBytes_eq_error_iff (by rintro e ⟨⟩)).mp hread))
  | ok content =>
    rw [hread] at h
    unfold baselineOfRead at h
    dsimp only at h
    split at h
    · cases h
      exact .inl ⟨_, rfl⟩
    · rename_i text htext
      rcases error_of_baselineOfText h with hinvalid | ⟨fault, rfl, hdocument, hformed⟩
      · exact .inl hinvalid
      · have hmeaning := (Yaml.meaningless_of_ofYaml hdocument).resolve_left hformed
        exact .inr (.value (FileTree.readBytes_eq_ok_iff.mp hread) htext hdocument hformed hmeaning)

/-- What escapes is what reading ends with. -/
theorem BaselineError.Escapes.baselineOfRead_eq (h : e.Escapes t p) :
    baselineOfRead p (t.readBytes p) = .error e := by
  cases h with
  | path unusable =>
    have hread := (FileTree.readBytes_eq_error_iff (t := t) (by rintro e rfl; cases unusable)).mpr unusable
    rw [hread]
    cases unusable <;> rfl
  | value file decoded document formed =>
    rw [FileTree.readBytes_eq_ok_iff.mpr file]
    simp only [baselineOfRead, decoded, baselineOfText, document]

end LintPreview
