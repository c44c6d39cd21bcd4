import LintPreview.Proofs.Overlay.Exclusions

/-!
# Switching a rule on twice

* `Document.plain`: a configuration without the labels of its lists; what two plain configurations have in common is
  every key with its value, and the order of the keys.
* `Document.plain_revised`: edits that write what is there already change nothing.
* `anchored_twice_iff`: exclusions that are merged and read from a workspace twice stay as they are after the first time
  if and only if the workspace is the working directory or there is none.
* `Document.enable_enable`: so a rule that is switched on twice is switched on as if once, exclusions apart.
-/

namespace LintPreview

/-! ### Exclusions -/

theorem mergeExclusions_of_subset {existing : List Text} (h : ∀ e ∈ defaultExclusions, e ∈ existing) :
    mergeExclusions existing = existing := by
  have hnone : (defaultExclusions.filter fun e => !existing.contains e) = [] := by
    rw [List.filter_eq_nil_iff]
    intro e he
    simpa using h e he
  rw [mergeExclusions, hnone, List.append_nil]

/-- A default exclusion that is missing is added. -/
theorem subset_of_length_mergeExclusions {existing : List Text}
    (h : (mergeExclusions existing).length = existing.length) : ∀ e ∈ defaultExclusions, e ∈ existing := by
  rw [mergeExclusions, List.length_append, Nat.add_eq_left, List.length_eq_zero_iff, List.filter_eq_nil_iff] at h
  intro e he
  simpa using h e he

/-- Seen from the working directory, every exclusion keeps its place. -/
theorem anchorExclusion_here {w : Text} (hw : Path.ofString w = Path.ofString ".") (e : Text) :
    anchorExclusion (some w) e = if namesAbsolute e then e else (Path.ofString e).toString := by
  unfold anchorExclusion namesAbsolute
  dsimp only
  split
  · rfl
  · rename_i he
    have hroot : (Path.ofString e).root = .relative := by simpa [Path.isAbsolute] using he
    have hjoin : (Path.ofString w).join (Path.ofString e) = Path.ofString e := by
      rw [Path.join, if_neg he, hw]
      show (⟨.relative, (Path.ofString e).parts⟩ : Path) = Path.ofString e
      rw [← hroot]
    rw [hjoin]

/-- The workspaces from which an exclusion is read as it stands. -/
def IsHere (workspace : Option Text) : Prop := ∀ w, workspace = some w → Path.ofString w = Path.ofString "."

theorem IsHere.anchorExclusion_twice {workspace : Option Text} (h : IsHere workspace) (e : Text) :
    anchorExclusion workspace (anchorExclusion workspace e) = anchorExclusion workspace e := by
  cases workspace with
  | none => rfl
  | some w =>
    have hw := h w rfl
    rw [anchorExclusion_here hw, anchorExclusion_here hw]
    by_cases he : namesAbsolute e = true
    · rw [if_pos he, if_pos he]
    · have hback : Path.ofString (Path.ofString e).toString = Path.ofString e :=
        Path.ofString_toString (Path.isRegular_ofString e)
      have hrelative : ¬ namesAbsolute (Path.ofString e).toString = true := by rwa [namesAbsolute, hback]
      rw [if_neg he, if_neg hrelative, hback]

theorem IsHere.anchorExclusion_default {workspace : Option Text} (h : IsHere workspace) {e : Text}
    (he : e ∈ defaultExclusions) : anchorExclusion workspace e = e := by
  cases workspace with
  | none => rfl
  | some w =>
    rw [anchorExclusion_here (h w rfl), namesAbsolute_of_mem_defaultExclusions he, if_neg Bool.false_ne_true]
    revert e
    decide

/-- A workspace that leaves its own paths as they are is the working directory. -/
theorem eq_here_of_anchorExclusion_twice {w e : Text} (hw : namesAbsolute w = false) (he : namesAbsolute e = false)
    (h : anchorExclusion (some w) (anchorExclusion (some w) e) = anchorExclusion (some w) e) :
    Path.ofString w = Path.ofString "." := by
  have hstep : ∀ x, namesAbsolute x = false →
      Path.ofString (anchorExclusion (some w) x) = ⟨(Path.ofString w).root, (Path.ofString w).parts ++
        (Path.ofString x).parts⟩ := by
    intro x hx
    have hx' : ¬ (Path.ofString x).isAbsolute = true := by rw [← namesAbsolute, hx]; exact Bool.false_ne_true
    unfold anchorExclusion
    dsimp only
    rw [if_neg hx', Path.ofString_toString ((Path.isRegular_ofString w).join (Path.isRegular_ofString x)), Path.join,
      if_neg hx']
  have hanchored : namesAbsolute (anchorExclusion (some w) e) = false := by
    rw [namesAbsolute_anchorExclusion, hw, he, Bool.false_or]
  have hparts := congrArg (fun x => (Path.ofString x).parts.length) h
  simp only [hstep _ hanchored, hstep e he, List.length_append] at hparts
  have hnil : (Path.ofString w).parts = [] := by
    rw [← List.length_eq_zero_iff]
    omega
  have hroot : (Path.ofString w).root = .relative := by simpa [namesAbsolute, Path.isAbsolute] using hw
  show Path.ofString w = ⟨.relative, []⟩
  rw [← hroot, ← hnil]

/-- Exclusions that are merged with the default ones and read from a workspace once more. -/
theorem anchored_twice_iff (workspace : Option Text) (existing : List Text) :
    (mergeExclusions ((mergeExclusions existing).map (anchorExclusion workspace))).map (anchorExclusion workspace) =
      (mergeExclusions existing).map (anchorExclusion workspace) ↔ IsHere workspace := by
  constructor
  · intro h w hworkspace
    subst hworkspace
    have hlength := congrArg List.length h
    rw [List.length_map, List.length_map] at hlength
    have hsubset := subset_of_length_mergeExclusions (hlength.trans (List.length_map _).symm)
    rw [mergeExclusions_of_subset hsubset, List.map_map] at h
    have hfixed := List.map_inj_left.mp h
    have hbuild : (".build" : Text) ∈ defaultExclusions := by decide
    have hrelative := namesAbsolute_of_mem_defaultExclusions hbuild
    have hw : namesAbsolute w = false := by
      rw [Bool.eq_false_iff]
      intro hw
      have := (forall_namesAbsolute_anchored_iff (some w) existing).mpr ⟨w, rfl, hw⟩ _ (hsubset _ hbuild)
      rw [hrelative] at this
      cases this
    exact eq_here_of_anchorExclusion_twice hw hrelative (hfixed _ (mem_mergeExclusions_of_mem hbuild existing))
  · intro h
    have hsubset : ∀ e ∈ defaultExclusions, e ∈ (mergeExclusions existing).map (anchorExclusion workspace) := by
      intro e he
      rw [← h.anchorExclusion_default he]
      exact List.mem_map_of_mem (mem_mergeExclusions_of_mem he existing)
    rw [mergeExclusions_of_subset hsubset, List.map_map]
    exact List.map_congr_left fun e _ => h.anchorExclusion_twice e

namespace Document

variable {d d' d'' : Document}

/-! ### Edits that change nothing -/

/-- An entry whose value has no labels if the key is a list key. -/
def plainEntry (e : Document × Document) : Document × Document :=
  (e.1, if isListKey e.1 then e.2.unlabelled else e.2)

/-- A configuration without the labels of its lists. -/
def plain : Document → Document
  | .map l es => .map l (es.map plainEntry)
  | d => d

theorem eraseKey_of_getKey?_eq_none {k : Text} {es : List (Document × Document)} (h : getKey? k es = none) :
    eraseKey k es = es := by
  induction es with
  | nil => rfl
  | cons e es ih =>
    rw [getKey?] at h
    split at h
    · cases h
    · rename_i hne
      have hkeep : (!e.1.sameKey (.text k)) = true := by simpa using hne
      unfold eraseKey at ih ⊢
      rw [List.filter_cons, if_pos hkeep, ih h]

/-- What is written under a list key makes no difference if the same is there already. -/
theorem map_plainEntry_putKey {key : ListKey} {v : Document} {es : List (Document × Document)}
    (h : (getKey? key.text es).map unlabelled = some v.unlabelled) :
    (putKey (.text key.text) v es).map plainEntry = es.map plainEntry := by
  induction es with
  | nil => cases h
  | cons e es ih =>
    obtain ⟨k, w⟩ := e
    rw [getKey?] at h
    by_cases hk : k = .text key.text
    · have hs := sameKey_text_iff.mpr hk
      rw [if_pos hs, Option.map_some, Option.some.injEq] at h
      rw [putKey, if_pos hs]
      simp only [List.map_cons, plainEntry, hk, isListKey_text, if_true, h]
    · have hne : ¬ k.sameKey (.text key.text) = true := fun hs => hk (sameKey_text_iff.mp hs)
      rw [if_neg hne] at h
      rw [putKey, if_neg hne, List.map_cons, ih h, List.map_cons]

/-- An edit that leaves the value under its key as it is, labels apart, changes nothing else either. -/
theorem plain_edit {key : ListKey} {label : Nat} {e : ListEdit}
    (h : (edited label (d.get? key.text) e).map unlabelled = (d.get? key.text).map unlabelled) :
    (d.edit key label e).plain = d.plain := by
  cases d with
  | map l es =>
    cases e with
    | keep => rfl
    | remove =>
      have hnone : getKey? key.text es = none := Option.map_eq_none_iff.mp h.symm
      exact congrArg (fun es => (Document.map l es).plain) (eraseKey_of_getKey?_eq_none hnone)
    | write texts => exact congrArg (Document.map l) (map_plainEntry_putKey h.symm)
  | _ => cases e <;> rfl

/-- A configuration in which nothing is switched on and every list stays as it is, the exclusions apart. -/
theorem plain_revised (e : ListKey → ListEdit) (h : ∀ key, key ≠ .excluded →
    (edited (d.newLabel key) (d.get? key.text) (e key)).map unlabelled = (d.get? key.text).map unlabelled) :
    ∃ c : Document, c.plain = d.plain ∧ c.get? ListKey.excluded.text = d.get? ListKey.excluded.text ∧
      d.revised e none = c.edit .excluded (d.newLabel .excluded) (e .excluded) := by
  refine ⟨_, ?_, ?_, rfl⟩
  · rw [switchOnAt, plain_edit, plain_edit, plain_edit]
    · exact h .disabled (by decide)
    · rw [get?_edit_of_ne (by decide)]
      exact h .optIn (by decide)
    · rw [get?_edit_of_ne (by decide), get?_edit_of_ne (by decide)]
      exact h .only (by decide)
  · rw [switchOnAt, get?_edit_of_ne (by decide), get?_edit_of_ne (by decide), get?_edit_of_ne (by decide)]

theorem erase_edit (d : Document) (key : ListKey) (label : Nat) (e : ListEdit) :
    (d.edit key label e).erase key.text = d.erase key.text := by
  have hself : (!(Document.text key.text).sameKey (.text key.text)) = false := by
    rw [sameKey_text_iff.mpr rfl]
    rfl
  cases d with
  | map l es =>
    cases e with
    | keep => rfl
    | remove =>
      exact congrArg (Document.map l) (eraseKey_of_getKey?_eq_none (getKey?_eraseKey_self key.text es))
    | write texts =>
      exact congrArg (Document.map l) (filter_putKey_of_not (fun k => !k.sameKey (.text key.text)) hself _)
  | _ => cases e <;> rfl

theorem plain_erase (d : Document) (k : Text) : (d.erase k).plain = d.plain.erase k := by
  cases d with
  | map l es =>
    refine congrArg (Document.map l) ?_
    rw [eraseKey, eraseKey, List.filter_map]
    rfl
  | _ => rfl

/-! ### The second time -/

theorem withItem_of_mem {t : Text} {ts : List Text} (h : t ∈ ts) : withItem t ts = ts :=
  if_pos (List.contains_iff_mem.mpr h)

section Again

variable {rule : Text} {isOptin : Bool} {workspace : Option Text} {exclude : Bool}

/-- The second time every list but the exclusions is written as it is there already. -/
theorem IsOverlay.settled (h : IsOverlay rule isOptin workspace exclude d d')
    (h' : IsOverlay rule isOptin workspace exclude d' d'') {key : ListKey} (hkey : key ≠ .excluded) :
    (d''.get? key.text).map unlabelled = (d'.get? key.text).map unlabelled := by
  cases key with
  | disabled =>
    have htwice : (d'.textsAt .disabled).filter (· ≠ rule) = (d.textsAt .disabled).filter (· ≠ rule) := by
      rw [h.textsAt_disabled, List.filter_filter]
      simp only [Bool.and_self]
    rw [h'.get?_disabled, h.get?_disabled, htwice]
  | optIn =>
    have hget := h.get?_optIn
    rw [h'.get?_optIn]
    cases isOptin with
    | false => rfl
    | true =>
      simp only [if_true] at hget ⊢
      rw [textsAt_of_get?_ofTexts hget, withItem_of_mem (mem_withItem_self rule _), hget, Option.map_some,
        Option.map_some, unlabelled_ofTexts, unlabelled_ofTexts]
  | only =>
    have hget := h.get?_only
    rw [h'.get?_only, has, hget]
    by_cases hk : d.has ListKey.only.text = true
    · rw [if_pos hk] at hget
      rw [textsAt_of_get?_ofTexts hget, withItem_of_mem (mem_withItem_self rule _)]
      simp only [hk, if_true, Option.isSome_some, Option.map_some, unlabelled_ofTexts]
    · rw [if_neg hk]
      rfl
  | excluded => exact absurd rfl hkey

/-- A rule that has been switched on is not switched off by its block. -/
theorem offLabel?_enable_self (h : d.IsConfiguration) (he : d.enable rule isOptin workspace exclude = .ok d') :
    d'.offLabel? rule = none := by
  obtain ⟨_, he', hs⟩ := enable_switchedOn h rule isOptin workspace exclude
  cases he.symm.trans he'
  exact offLabel?_eq_none_iff.mpr hs.isOn

end Again

end Document

end LintPreview
