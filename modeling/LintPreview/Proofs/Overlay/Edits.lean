import LintPreview.Proofs.Overlay.Others
import LintPreview.Proofs.Yaml.Simple

/-!
# Switching a rule on as a list of edits

Each of the four lists is edited at most once, and at most one mapping is switched on. What is written depends on the
configuration of the beginning only, so that the result of `Document.enable` has a closed form, from which its
properties are read without opening its steps again.

* `ListEdit`: what becomes of the value under a list key; `Document.editFor` is the edit for each of the keys.
* `Document.inTurn`: the edits made one after the other, as `Document.enable` makes them (`Document.enable_eq_inTurn`).
* `Document.revised`: a configuration with all edits made; `Document.enable_eq_revised` says that this is the overlay.
* `Document.get?_revised`: what stands under the list keys of the result.
* `Document.core`: a configuration without its lists; `Document.core_revised` is what becomes of it.
-/

namespace LintPreview

/-- What becomes of the value under a list key. -/
inductive ListEdit where
  | keep
  | remove
  | write (texts : List Text)
deriving DecidableEq, Repr

namespace Document

variable {d d' : Document} {key : ListKey} {label : Nat}

/-! ### One edit -/

/-- The value under a list key after an edit; a new list gets the label `label`. -/
def edited (label : Nat) (old : Option Document) : ListEdit → Option Document
  | .keep => old
  | .remove => none
  | .write texts => some (ofTexts label texts)

/-- A configuration after an edit under a list key. -/
def edit (d : Document) (key : ListKey) (label : Nat) : ListEdit → Document
  | .keep => d
  | .remove => d.erase key.text
  | .write texts => d.put key.text (ofTexts label texts)

theorem changedAt_edit (h : d.IsConfiguration) (key : ListKey) (label : Nat) (e : ListEdit) :
    ChangedAt key d (d.edit key label e) := by
  cases e with
  | keep => exact .refl h
  | remove => exact .erase h
  | write texts => exact .put h label texts

theorem isConfiguration_edit (h : d.IsConfiguration) (key : ListKey) (label : Nat) (e : ListEdit) :
    (d.edit key label e).IsConfiguration :=
  (changedAt_edit h key label e).isConfiguration h

theorem get?_edit_self (h : d.isMapping = true) (key : ListKey) (label : Nat) (e : ListEdit) :
    (d.edit key label e).get? key.text = edited label (d.get? key.text) e := by
  cases e with
  | keep => rfl
  | remove => exact get?_erase_self d key.text
  | write texts => exact get?_put_self h key.text _

theorem get?_edit_of_ne {k : Text} (h : k ≠ key.text) (d : Document) (label : Nat) (e : ListEdit) :
    (d.edit key label e).get? k = d.get? k := by
  cases e with
  | keep => rfl
  | remove => exact get?_erase_of_ne h d
  | write texts => exact get?_put_of_ne h d _

theorem mapLabel?_edit (d : Document) (key : ListKey) (label : Nat) (e : ListEdit) :
    (d.edit key label e).mapLabel? = d.mapLabel? := by
  cases e with
  | keep => rfl
  | remove => exact mapLabel?_erase d key.text
  | write texts => exact mapLabel?_put d key.text _

/-- No edit under a list key changes which mapping switches a rule off. -/
theorem offLabel?_edit (h : d.IsConfiguration) (key : ListKey) (label : Nat) (e : ListEdit) (rule : Text) :
    (d.edit key label e).offLabel? rule = d.offLabel? rule :=
  (changedAt_edit h key label e).offLabel?_eq h (mapLabel?_edit d key label e) rule

/-! ### All edits -/

/-- A configuration with the mapping of a label switched on, if there is a label. -/
def switchOnAt (d : Document) : Option Nat → Document
  | none => d
  | some l => d.switchOn l

/-- What switching a rule on does under each list key. -/
def editFor (d : Document) (rule : Text) (isOptin : Bool) (workspace : Option Text) (exclude : Bool) :
    ListKey → ListEdit
  | .disabled =>
    if d.has ListKey.disabled.text then
      match (d.textsAt .disabled).filter (· ≠ rule) with
      | [] => .remove
      | left => .write left
    else .keep
  | .optIn => if isOptin then .write (withItem rule (d.textsAt .optIn)) else .keep
  | .only => if d.has ListKey.only.text then .write (withItem rule (d.textsAt .only)) else .keep
  | .excluded =>
    if exclude then .write ((mergeExclusions (d.textsAt .excluded)).map (anchorExclusion workspace)) else .keep

/-- The label of a new list under a list key. -/
def newLabel (d : Document) : ListKey → Nat
  | .disabled => d.freshLabel
  | .optIn => d.freshLabel + 1
  | .only => d.freshLabel + 2
  | .excluded => d.freshLabel + 3

/-- A configuration edited under the list keys, and the mapping of a label, if there is one, switched on meanwhile. -/
def revised (d : Document) (e : ListKey → ListEdit) (off : Option Nat) : Document :=
  ((((d.edit .disabled (d.newLabel .disabled) (e .disabled)).edit .optIn (d.newLabel .optIn) (e .optIn)).edit .only
    (d.newLabel .only) (e .only)).switchOnAt off).edit .excluded (d.newLabel .excluded) (e .excluded)

/-- The edit under a list key depends on the value under this key only. -/
theorem editFor_congr {rule : Text} {isOptin : Bool} {workspace : Option Text} {exclude : Bool}
    (h : d'.get? key.text = d.get? key.text) :
    d'.editFor rule isOptin workspace exclude key = d.editFor rule isOptin workspace exclude key := by
  cases key <;> simp only [editFor, textsAt_of_get?_eq h, has_of_get?_eq h]

/-- An edit under one list key leaves the edits under the others to be the same. -/
theorem editFor_edit_of_ne {key' : ListKey} (hne : key' ≠ key) (d : Document) (label : Nat) (e : ListEdit) (rule : Text)
    (isOptin : Bool) (workspace : Option Text) (exclude : Bool) :
    (d.edit key label e).editFor rule isOptin workspace exclude key' =
      d.editFor rule isOptin workspace exclude key' :=
  editFor_congr (get?_edit_of_ne (text_ne_of_ne hne) d label e)

/-- The edits made one after the other, each of them for what the ones before have left. -/
def inTurn (d : Document) (rule : Text) (isOptin : Bool) (workspace : Option Text) (exclude : Bool) : Document :=
  let d₁ := d.edit .disabled (d.newLabel .disabled) (d.editFor rule isOptin workspace exclude .disabled)
  let d₂ := d₁.edit .optIn (d.newLabel .optIn) (d₁.editFor rule isOptin workspace exclude .optIn)
  let d₃ := d₂.edit .only (d.newLabel .only) (d₂.editFor rule isOptin workspace exclude .only)
  let d₄ := d₃.switchOnAt (d₃.offLabel? rule)
  d₄.edit .excluded (d.newLabel .excluded) (d₄.editFor rule isOptin workspace exclude .excluded)

section Steps

variable (h : d.IsConfiguration) (rule : Text) (isOptin : Bool) (workspace : Option Text) (exclude : Bool) (label : Nat)
include h

theorem dropDisabled_eq : d.dropDisabled rule label =
    .ok (d.edit .disabled label (d.editFor rule isOptin workspace exclude .disabled)) := by
  unfold dropDisabled editFor
  by_cases hk : d.has ListKey.disabled.text = true
  · simp only [hk, if_true, h.listedAt_eq, bind, Except.bind]
    cases (d.textsAt .disabled).filter (· ≠ rule) <;> rfl
  · rw [if_neg hk, if_neg hk]
    rfl

theorem addOptIn_eq : d.addOptIn rule isOptin label =
    .ok (d.edit .optIn label (d.editFor rule isOptin workspace exclude .optIn)) := by
  unfold addOptIn editFor
  cases isOptin with
  | true =>
    simp only [if_true, h.listedAt_eq, bind, Except.bind]
    rfl
  | false => rfl

theorem addOnly_eq : d.addOnly rule label =
    .ok (d.edit .only label (d.editFor rule isOptin workspace exclude .only)) := by
  unfold addOnly editFor
  by_cases hk : d.has ListKey.only.text = true
  · simp only [hk, if_true, h.listedAt_eq, bind, Except.bind]
    rfl
  · rw [if_neg hk, if_neg hk]
    rfl

theorem addExclusions_eq : (if exclude then d.addExclusions workspace label else .ok d) =
    .ok (d.edit .excluded label (d.editFor rule isOptin workspace exclude .excluded)) := by
  unfold addExclusions editFor
  cases exclude with
  | true =>
    simp only [if_true, h.listedAt_eq, bind, Except.bind]
    rfl
  | false => rfl

end Steps

/-- The mapping that is switched on is the one that switches the rule off. -/
theorem switchBlockOn_eq (d : Document) (rule : Text) : d.switchBlockOn rule = d.switchOnAt (d.offLabel? rule) := by
  unfold switchBlockOn offLabel?
  cases d.block? rule with
  | none => rfl
  | some v =>
    cases v with
    | map l es => by_cases hoff : (Document.map l es).isSwitchedOff = true <;> simp [hoff, mapLabel?, switchOnAt]
    | _ => rfl

theorem get?_text_switchOnAt (h : d.IsConfiguration) (off : Option Nat) (key : ListKey) :
    (d.switchOnAt off).get? key.text = d.get? key.text := by
  cases off with
  | none => rfl
  | some l => exact get?_text_switchOn h l key

theorem isConfiguration_switchOnAt (h : d.IsConfiguration) (off : Option Nat) :
    (d.switchOnAt off).IsConfiguration := by
  cases off with
  | none => exact h
  | some l => exact isConfiguration_switchOn h l

/-! ### The overlay as edits -/

section Overlay

variable (h : d.IsConfiguration) (rule : Text) (isOptin : Bool) (workspace : Option Text) (exclude : Bool)
include h

/-- To switch a rule on is to make the edits in turn. -/
theorem enable_eq_inTurn : d.enable rule isOptin workspace exclude = .ok (d.inTurn rule isOptin workspace exclude) := by
  let e (d : Document) := d.editFor rule isOptin workspace exclude
  let d₁ := d.edit .disabled (d.newLabel .disabled) (e d .disabled)
  let d₂ := d₁.edit .optIn (d.newLabel .optIn) (e d₁ .optIn)
  let d₃ := d₂.edit .only (d.newLabel .only) (e d₂ .only)
  have h₁ : d₁.IsConfiguration := isConfiguration_edit h _ _ _
  have h₂ : d₂.IsConfiguration := isConfiguration_edit h₁ _ _ _
  have h₃ : d₃.IsConfiguration := isConfiguration_edit h₂ _ _ _
  have h₄ := isConfiguration_switchOnAt h₃ (d₃.offLabel? rule)
  have e₁ : d.dropDisabled rule d.freshLabel = .ok d₁ := dropDisabled_eq h _ _ _ _ _
  have e₂ : d₁.addOptIn rule isOptin (d.freshLabel + 1) = .ok d₂ := addOptIn_eq h₁ _ _ _ _ _
  have e₃ : d₂.addOnly rule (d.freshLabel + 2) = .ok d₃ := addOnly_eq h₂ _ _ _ _ _
  have e₅ := addExclusions_eq h₄ rule isOptin workspace exclude (d.freshLabel + 3)
  simp only [enable, e₁, e₂, e₃, switchBlockOn_eq, bind, Except.bind, pure, Except.pure]
  exact e₅

/-- What is written in turn depends on the configuration of the beginning only. -/
theorem inTurn_eq_revised : d.inTurn rule isOptin workspace exclude =
    d.revised (d.editFor rule isOptin workspace exclude) (d.offLabel? rule) := by
  have h₁ := isConfiguration_edit h .disabled (d.newLabel .disabled) (d.editFor rule isOptin workspace exclude .disabled)
  have h₂ := isConfiguration_edit h₁ .optIn (d.newLabel .optIn) (d.editFor rule isOptin workspace exclude .optIn)
  have h₃ := isConfiguration_edit h₂ .only (d.newLabel .only) (d.editFor rule isOptin workspace exclude .only)
  unfold inTurn
  dsimp only
  rw [editFor_edit_of_ne (by decide), editFor_edit_of_ne (by decide), editFor_edit_of_ne (by decide),
    editFor_congr (get?_text_switchOnAt h₃ _ .excluded), editFor_edit_of_ne (by decide),
    editFor_edit_of_ne (by decide), editFor_edit_of_ne (by decide), offLabel?_edit h₂, offLabel?_edit h₁,
    offLabel?_edit h]
  rfl

/-- The overlay of a configuration for a rule is the configuration with all edits made. -/
theorem enable_eq_revised : d.enable rule isOptin workspace exclude =
    .ok (d.revised (d.editFor rule isOptin workspace exclude) (d.offLabel? rule)) := by
  rw [enable_eq_inTurn h, inTurn_eq_revised h]

end Overlay

/-! ### The lists of the result -/

section Revised

variable (h : d.IsConfiguration) (e : ListKey → ListEdit) (off : Option Nat)
include h

theorem isConfiguration_revised : (d.revised e off).IsConfiguration := by
  have h₁ := isConfiguration_edit h .disabled (d.newLabel .disabled) (e .disabled)
  have h₂ := isConfiguration_edit h₁ .optIn (d.newLabel .optIn) (e .optIn)
  have h₃ := isConfiguration_edit h₂ .only (d.newLabel .only) (e .only)
  have h₄ := isConfiguration_switchOnAt h₃ off
  exact isConfiguration_edit h₄ .excluded (d.newLabel .excluded) (e .excluded)

/-- What stands under a list key is what the edit under this key leaves there. -/
theorem get?_revised (key : ListKey) :
    (d.revised e off).get? key.text = edited (d.newLabel key) (d.get? key.text) (e key) := by
  have h₁ := isConfiguration_edit h .disabled (d.newLabel .disabled) (e .disabled)
  have h₂ := isConfiguration_edit h₁ .optIn (d.newLabel .optIn) (e .optIn)
  have h₃ := isConfiguration_edit h₂ .only (d.newLabel .only) (e .only)
  have h₄ := isConfiguration_switchOnAt h₃ off
  unfold revised
  cases key with
  | disabled =>
    rw [get?_edit_of_ne (by decide), get?_text_switchOnAt h₃, get?_edit_of_ne (by decide), get?_edit_of_ne (by decide),
      get?_edit_self h.isMapping]
  | optIn =>
    rw [get?_edit_of_ne (by decide), get?_text_switchOnAt h₃, get?_edit_of_ne (by decide), get?_edit_self h₁.isMapping,
      get?_edit_of_ne (by decide)]
  | only =>
    rw [get?_edit_of_ne (by decide), get?_text_switchOnAt h₃, get?_edit_self h₂.isMapping, get?_edit_of_ne (by decide),
      get?_edit_of_ne (by decide)]
  | excluded =>
    rw [get?_edit_self h₄.isMapping, get?_text_switchOnAt h₃, get?_edit_of_ne (by decide), get?_edit_of_ne (by decide),
      get?_edit_of_ne (by decide)]

end Revised

/-! ### The rest of the result -/

/-- Whether a key is one of the list keys. -/
def isListKey : Document → Bool
  | .text s => ListKey.all.any fun key => key.text == s
  | _ => false

theorem isListKey_text (key : ListKey) : isListKey (.text key.text) = true := by
  cases key <;> decide

theorem isListKey_text_iff {s : Text} : isListKey (.text s) = true ↔ ∃ key : ListKey, s = key.text := by
  constructor
  · intro h
    obtain ⟨key, -, hkey⟩ := List.any_eq_true.mp h
    exact ⟨key, (beq_iff_eq.mp hkey).symm⟩
  · rintro ⟨key, rfl⟩
    exact isListKey_text key

/-- A configuration without its lists. -/
def core : Document → Document
  | .map l es => .map l (es.filter fun e => !isListKey e.1)
  | d => d

section Entries

variable (keep : Document → Bool) {k : Text} {es : List (Document × Document)}

theorem filter_putKey_of_not (hk : keep (.text k) = false) (v : Document) :
    (putKey (.text k) v es).filter (fun e => keep e.1) = es.filter fun e => keep e.1 := by
  induction es with
  | nil => simp [putKey, hk]
  | cons e es ih =>
    obtain ⟨k', w⟩ := e
    by_cases heq : k' = .text k
    · simp [putKey, sameKey_text_iff, heq, hk]
    · simp only [putKey, sameKey_text_iff, heq, if_false, List.filter_cons, ih]

theorem filter_putKey_of_keep (hk : keep (.text k) = true) (v : Document) :
    (putKey (.text k) v es).filter (fun e => keep e.1) = putKey (.text k) v (es.filter fun e => keep e.1) := by
  induction es with
  | nil => simp [putKey, hk]
  | cons e es ih =>
    obtain ⟨k', w⟩ := e
    by_cases heq : k' = .text k
    · simp [putKey, sameKey_text_iff, heq, hk]
    · by_cases hkeep : keep k' = true <;> simp [putKey, sameKey_text_iff, heq, hkeep, ih]

theorem filter_eraseKey_of_not (hk : keep (.text k) = false) :
    (eraseKey k es).filter (fun e => keep e.1) = es.filter fun e => keep e.1 := by
  unfold eraseKey
  rw [List.filter_filter]
  refine List.filter_congr fun e _ => ?_
  by_cases heq : e.1 = .text k
  · simp [heq, hk]
  · have hne : e.1.sameKey (.text k) = false := by
      rw [Bool.eq_false_iff]
      exact fun hs => heq (sameKey_text_iff.mp hs)
    simp [hne]

theorem filter_switchOnEntries (l : Nat) : (switchOnEntries l es).filter (fun e => keep e.1) =
    switchOnEntries l (es.filter fun e => keep e.1) := by
  induction es with
  | nil => rfl
  | cons e es ih =>
    obtain ⟨k', w⟩ := e
    by_cases hkeep : keep k' = true <;> simp [switchOnEntries, hkeep, ih]

end Entries

/-- No edit under a list key reaches the rest. -/
theorem core_edit (d : Document) (key : ListKey) (label : Nat) (e : ListEdit) : (d.edit key label e).core = d.core := by
  have hkey : (!isListKey (.text key.text)) = false := by rw [isListKey_text]; rfl
  cases d with
  | map l es =>
    cases e with
    | keep => rfl
    | remove => exact congrArg (Document.map l) (filter_eraseKey_of_not (fun k => !isListKey k) hkey)
    | write texts => exact congrArg (Document.map l) (filter_putKey_of_not (fun k => !isListKey k) hkey _)
  | _ => cases e <;> rfl

/-- Switching a mapping on and leaving the lists out can be done in either order. -/
theorem core_switchOn (d : Document) (l : Nat) : (d.switchOn l).core = d.core.switchOn l := by
  cases d with
  | map l' es =>
    have hflag : (!isListKey (.text "enabled")) = true := by decide
    simp only [switchOn, core]
    split
    · rw [filter_putKey_of_keep (fun k => !isListKey k) hflag,
        filter_switchOnEntries (fun k => !isListKey k)]
    · rw [filter_switchOnEntries (fun k => !isListKey k)]
  | _ => rfl

theorem core_switchOnAt (d : Document) (off : Option Nat) : (d.switchOnAt off).core = d.core.switchOnAt off := by
  cases off with
  | none => rfl
  | some l => exact core_switchOn d l

/-- Beside the lists there is one change: a mapping is switched on. -/
theorem core_revised (d : Document) (e : ListKey → ListEdit) (off : Option Nat) :
    (d.revised e off).core = d.core.switchOnAt off := by
  rw [revised, core_edit, core_switchOnAt, core_edit, core_edit, core_edit]

/-! ### Overlays -/

theorem unlabelled_ofTexts (label : Nat) (ts : List Text) : (ofTexts label ts).unlabelled = ofTexts 0 ts := by
  have hitems : unlabelledItems (ts.map .text) = ts.map .text := by
    induction ts with
    | nil => rfl
    | cons t ts ih =>
      rw [List.map_cons, unlabelledItems, ih]
      rfl
  rw [ofTexts, unlabelled, hitems, ofTexts]

/-- `d'` is the overlay of `d` for a rule, but for the order of its keys. -/
structure IsOverlay (rule : Text) (isOptin : Bool) (workspace : Option Text) (exclude : Bool) (d d' : Document) :
    Prop where
  isConfiguration : d'.IsConfiguration
  core : d'.core = d.core.switchOnAt (d.offLabel? rule)
  get?_text : ∀ key : ListKey, d'.get? key.text =
    edited (d.newLabel key) (d.get? key.text) (d.editFor rule isOptin workspace exclude key)

theorem exists_isOverlay (h : d.IsConfiguration) (rule : Text) (isOptin : Bool) (workspace : Option Text)
    (exclude : Bool) :
    ∃ d', d.enable rule isOptin workspace exclude = .ok d' ∧ IsOverlay rule isOptin workspace exclude d d' :=
  ⟨_, enable_eq_revised h rule isOptin workspace exclude, isConfiguration_revised h _ _, core_revised d _ _,
    get?_revised h _ _⟩

theorem get?_eq_none_of_not_has {k : Text} (h : ¬ d.has k = true) : d.get? k = none := by
  simpa [has] using h

namespace IsOverlay

variable {rule : Text} {isOptin : Bool} {workspace : Option Text} {exclude : Bool}

/-- What is left of the disabled rules, or nothing if no rule is left. -/
theorem get?_disabled (ho : IsOverlay rule isOptin workspace exclude d d') :
    (d'.get? ListKey.disabled.text).map unlabelled =
      match (d.textsAt .disabled).filter (· ≠ rule) with
      | [] => none
      | left => some (ofTexts 0 left) := by
  rw [ho.get?_text, editFor]
  by_cases hk : d.has ListKey.disabled.text = true
  · rw [if_pos hk]
    cases (d.textsAt .disabled).filter (· ≠ rule) with
    | nil => rfl
    | cons t ts => exact congrArg some (unlabelled_ofTexts _ _)
  · have hn := get?_eq_none_of_not_has hk
    rw [if_neg hk, textsAt_of_get?_none hn, hn]
    rfl

theorem textsAt_disabled (ho : IsOverlay rule isOptin workspace exclude d d') :
    d'.textsAt .disabled = (d.textsAt .disabled).filter (· ≠ rule) := by
  have hget := ho.get?_text .disabled
  rw [editFor] at hget
  by_cases hk : d.has ListKey.disabled.text = true
  · rw [if_pos hk] at hget
    cases hl : (d.textsAt .disabled).filter (· ≠ rule) with
    | nil =>
      rw [hl] at hget
      exact textsAt_of_get?_none hget
    | cons t ts =>
      rw [hl] at hget
      exact textsAt_of_get?_ofTexts hget
  · have hn := get?_eq_none_of_not_has hk
    rw [if_neg hk, hn] at hget
    rw [textsAt_of_get?_none hget, textsAt_of_get?_none hn]
    rfl

theorem get?_optIn (ho : IsOverlay rule isOptin workspace exclude d d') : d'.get? ListKey.optIn.text =
    if isOptin then some (ofTexts (d.newLabel .optIn) (withItem rule (d.textsAt .optIn)))
    else d.get? ListKey.optIn.text := by
  rw [ho.get?_text, editFor]
  cases isOptin <;> rfl

theorem get?_only (ho : IsOverlay rule isOptin workspace exclude d d') : d'.get? ListKey.only.text =
    if d.has ListKey.only.text then some (ofTexts (d.newLabel .only) (withItem rule (d.textsAt .only)))
    else none := by
  rw [ho.get?_text, editFor]
  by_cases hk : d.has ListKey.only.text = true
  · rw [if_pos hk, if_pos hk]
    rfl
  · rw [if_neg hk, if_neg hk]
    exact get?_eq_none_of_not_has hk

theorem get?_excluded (ho : IsOverlay rule isOptin workspace exclude d d') : d'.get? ListKey.excluded.text =
    if exclude then
      some (ofTexts (d.newLabel .excluded)
        ((mergeExclusions (d.textsAt .excluded)).map (anchorExclusion workspace)))
    else d.get? ListKey.excluded.text := by
  rw [ho.get?_text, editFor]
  cases exclude <;> rfl

end IsOverlay

end Document

end LintPreview
