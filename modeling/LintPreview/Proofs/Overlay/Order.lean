import LintPreview.Proofs.Overlay.Edits

/-!
# Switching two rules on in either order

* `Document.switchOnAt_comm`: two mappings can be switched on in either order, and one that both rules share is
  switched on once.
* `withItem_comm`: two items can be put at the end of a list in either order, up to the order of the list.
* `Document.SameUpToOrder`: two configurations hold the same, but the lists to which rules are added may be in another
  order. `Document.enable_comm` says that this is all that the order of two calls of `Document.enable` decides.
-/

namespace LintPreview

namespace Document

variable {d d' : Document}

/-! ### Blocks -/

theorem switchOnEntries_putKey (l : Nat) (k v : Document) (es : List (Document × Document)) :
    switchOnEntries l (putKey k v es) = putKey k (v.switchOn l) (switchOnEntries l es) := by
  induction es with
  | nil => rfl
  | cons e es ih =>
    obtain ⟨k', w⟩ := e
    by_cases h : k'.sameKey k = true <;> simp [putKey, switchOnEntries, h, ih]

mutual

theorem switchOn_comm {l l' : Nat} (h : l ≠ l') : ∀ d : Document, (d.switchOn l).switchOn l' = (d.switchOn l').switchOn l
  | .list _ items => by simp only [switchOn, switchOnItems_comm h items]
  | .map m es => by
    have hflag : ∀ k, (Document.bool true).switchOn k = .bool true := fun _ => rfl
    have hes := switchOnEntries_comm h es
    simp only [switchOn]
    by_cases h₁ : m = l
    · have h₂ : m ≠ l' := fun heq => h (h₁.symm.trans heq)
      simp only [h₁, if_true, if_neg h, switchOnEntries_putKey, hflag, hes]
    · by_cases h₂ : m = l'
      · simp only [h₂, if_true, if_neg (Ne.symm h), switchOnEntries_putKey, hflag, hes]
      · simp only [if_neg h₁, if_neg h₂, hes]
  | .null | .bool _ | .int _ | .float _ | .text _ | .bytes _ | .moment .. | .set .. | .enclosing _ => rfl

theorem switchOnItems_comm {l l' : Nat} (h : l ≠ l') :
    ∀ items, switchOnItems l' (switchOnItems l items) = switchOnItems l (switchOnItems l' items)
  | [] => rfl
  | d :: items => by simp only [switchOnItems, switchOn_comm h d, switchOnItems_comm h items]

theorem switchOnEntries_comm {l l' : Nat} (h : l ≠ l') :
    ∀ es, switchOnEntries l' (switchOnEntries l es) = switchOnEntries l (switchOnEntries l' es)
  | [] => rfl
  | (k, v) :: es => by simp only [switchOnEntries, switchOn_comm h v, switchOnEntries_comm h es]

end

/-- Two mappings can be switched on in either order. If they are one, it is switched on once. -/
theorem switchOnAt_comm (d : Document) (x y : Option Nat) :
    (d.switchOnAt x).switchOnAt (if y = x then none else y) = (d.switchOnAt y).switchOnAt (if x = y then none else x) := by
  by_cases h : x = y
  · rw [h, if_pos rfl]
  · rw [if_neg h, if_neg (Ne.symm h)]
    cases x with
    | none => rfl
    | some l =>
      cases y with
      | none => rfl
      | some l' => exact switchOn_comm (fun heq => h (congrArg some heq)) d

/-! ### Lists -/

theorem withItem_comm (r s : Text) (ts : List Text) :
    (withItem s (withItem r ts)).Perm (withItem r (withItem s ts)) := by
  by_cases heq : r = s
  · rw [heq]
  · have hne : s ≠ r := Ne.symm heq
    by_cases hr : r ∈ ts
    · by_cases hs : s ∈ ts <;> simp [withItem, hr, hs]
    · by_cases hs : s ∈ ts
      · simp [withItem, hr, hs]
      · simp only [withItem, List.contains_iff_mem, hr, hs, if_false, List.mem_append, List.mem_singleton, heq, hne,
          or_false, List.append_assoc]
        exact (List.Perm.swap s r []).append_left ts

/-- Two values are the same, or both list the same texts in any order. -/
inductive Reordered : Document → Document → Prop where
  | same (v : Document) : Reordered v v
  | lists (l l' : Nat) {ts us : List Text} (h : ts.Perm us) : Reordered (ofTexts l ts) (ofTexts l' us)

/-! ### Two rules -/

/-- Two configurations have the same keys with the same values, apart from the order of the list keys among the keys,
the labels of the lists and the order of the lists to which rules are added. -/
structure SameUpToOrder (d d' : Document) : Prop where
  core : d.core = d'.core
  disabled : (d.get? ListKey.disabled.text).map unlabelled = (d'.get? ListKey.disabled.text).map unlabelled
  excluded : (d.get? ListKey.excluded.text).map unlabelled = (d'.get? ListKey.excluded.text).map unlabelled
  optIn : Option.Rel Reordered (d.get? ListKey.optIn.text) (d'.get? ListKey.optIn.text)
  only : Option.Rel Reordered (d.get? ListKey.only.text) (d'.get? ListKey.only.text)

section Chains

variable {r s : Text} {o o' : Bool} {workspace : Option Text} {exclude : Bool} {b d₁ d₂ : Document}

/-- Which list of disabled rules is left does not depend on the order. -/
theorem IsOverlay.disabled_comm (h₁ : IsOverlay r o workspace exclude b d₁)
    (h : IsOverlay s o' workspace exclude d₁ d) (h₂ : IsOverlay s o' workspace exclude b d₂)
    (h' : IsOverlay r o workspace exclude d₂ d') :
    (d.get? ListKey.disabled.text).map unlabelled = (d'.get? ListKey.disabled.text).map unlabelled := by
  rw [h.get?_disabled, h'.get?_disabled, h₁.textsAt_disabled, h₂.textsAt_disabled, List.filter_filter,
    List.filter_filter]
  simp only [Bool.and_comm]

theorem IsOverlay.excluded_comm (h₁ : IsOverlay r o workspace exclude b d₁)
    (h : IsOverlay s o' workspace exclude d₁ d) (h₂ : IsOverlay s o' workspace exclude b d₂)
    (h' : IsOverlay r o workspace exclude d₂ d') :
    (d.get? ListKey.excluded.text).map unlabelled = (d'.get? ListKey.excluded.text).map unlabelled := by
  rw [h.get?_excluded, h'.get?_excluded, h₁.get?_excluded, h₂.get?_excluded]
  cases exclude with
  | false => rfl
  | true =>
    simp only [if_true, Option.map_some, unlabelled_ofTexts, textsAt_of_get?_ofTexts h₁.get?_excluded,
      textsAt_of_get?_ofTexts h₂.get?_excluded]

theorem IsOverlay.optIn_comm (h₁ : IsOverlay r o workspace exclude b d₁)
    (h : IsOverlay s o' workspace exclude d₁ d) (h₂ : IsOverlay s o' workspace exclude b d₂)
    (h' : IsOverlay r o workspace exclude d₂ d') :
    Option.Rel Reordered (d.get? ListKey.optIn.text) (d'.get? ListKey.optIn.text) := by
  have g₁ := h₁.get?_optIn
  have g₂ := h₂.get?_optIn
  rw [h.get?_optIn, h'.get?_optIn]
  cases o <;> cases o' <;> simp only [if_true, Bool.false_eq_true, if_false] at g₁ g₂ ⊢
  · rw [g₁, g₂]
    cases b.get? ListKey.optIn.text with
    | none => exact .none
    | some v => exact .some (.same v)
  · rw [g₂, textsAt_of_get?_eq g₁]
    exact .some (.lists _ _ (.refl _))
  · rw [g₁, textsAt_of_get?_eq g₂]
    exact .some (.lists _ _ (.refl _))
  · rw [textsAt_of_get?_ofTexts g₁, textsAt_of_get?_ofTexts g₂]
    exact .some (.lists _ _ (withItem_comm r s _))

theorem IsOverlay.only_comm (h₁ : IsOverlay r o workspace exclude b d₁)
    (h : IsOverlay s o' workspace exclude d₁ d) (h₂ : IsOverlay s o' workspace exclude b d₂)
    (h' : IsOverlay r o workspace exclude d₂ d') :
    Option.Rel Reordered (d.get? ListKey.only.text) (d'.get? ListKey.only.text) := by
  have g₁ := h₁.get?_only
  have g₂ := h₂.get?_only
  rw [h.get?_only, h'.get?_only, has, has, g₁, g₂]
  by_cases hk : b.has ListKey.only.text = true
  · rw [if_pos hk] at g₁ g₂ ⊢
    rw [if_pos hk, textsAt_of_get?_ofTexts g₁, textsAt_of_get?_ofTexts g₂]
    exact .some (.lists _ _ (withItem_comm r s _))
  · rw [if_neg hk, if_neg hk]
    exact .none

end Chains

end Document

end LintPreview
