import LintPreview.Proofs.Overlay.Copies

/-!
# What an overlay keeps

* `Document.IsUnshared`: no two places of a document hold one object. Then the block of a rule is switched on where it
  stands and nowhere else (`IsUnshared.switchOnAt_eq`).
* `Document.KeepsOrder`: the keys that are left stand in the order in which they stood, and new ones follow. Every edit
  under a list key keeps the order, if the key was not touched before (`KeepsOrder.edit`).
* `Document.Frame`: all that an overlay has in common with its configuration. `Document.enable_frame` says that every
  overlay of a baseline without shared objects has it, and that the baseline stays as it was.
-/

namespace LintPreview

namespace Document

variable {b d : Document}

/-! ### Keys and their order -/

/-- The keys of a mapping, in order. -/
def keys (d : Document) : List Document := d.entries.map Prod.fst

theorem mem_keys_iff {k : Text} : .text k ∈ d.keys ↔ d.has k = true := by
  have hentries : ∀ es : List (Document × Document), .text k ∈ es.map Prod.fst ↔ (getKey? k es).isSome = true := by
    intro es
    induction es with
    | nil => simp [getKey?]
    | cons e es ih =>
      obtain ⟨k', v⟩ := e
      by_cases heq : k' = .text k
      · simp [getKey?, sameKey_text_iff, heq]
      · simp [getKey?, sameKey_text_iff, heq, Ne.symm heq, ih]
  exact hentries d.entries

/-- A value put under a key leaves the keys as they are, or adds this one at the end. -/
theorem keys_put (h : d.isMapping = true) (k : Text) (v : Document) :
    (d.put k v).keys = if d.has k then d.keys else d.keys ++ [.text k] := by
  have hentries : ∀ es : List (Document × Document), (putKey (.text k) v es).map Prod.fst =
      if (getKey? k es).isSome then es.map Prod.fst else es.map Prod.fst ++ [.text k] := by
    intro es
    induction es with
    | nil => rfl
    | cons e es ih =>
      obtain ⟨k', w⟩ := e
      rw [putKey, getKey?]
      split
      · rfl
      · rw [List.map_cons, ih]
        split <;> rfl
  cases d with
  | map l es => exact hentries es
  | _ => cases h

theorem keys_erase (d : Document) (k : Text) : (d.erase k).keys = d.keys.filter fun k' => !k'.sameKey (.text k) := by
  cases d with
  | map l es =>
    rw [keys, keys, List.filter_map]
    rfl
  | _ => rfl

/-- Switching on a mapping inside a document leaves the keys as they are. -/
theorem keys_switchOn {l : Nat} (h : d.mapLabel? ≠ some l) : (d.switchOn l).keys = d.keys := by
  have hentries : ∀ es : List (Document × Document), (switchOnEntries l es).map Prod.fst = es.map Prod.fst := by
    intro es
    induction es with
    | nil => rfl
    | cons e es ih => rw [switchOnEntries, List.map_cons, ih, List.map_cons]
  cases d with
  | map l' es =>
    have hl : l' ≠ l := fun heq => h (congrArg some heq)
    simp only [switchOn, if_neg hl, keys, entries, hentries]
  | _ => rfl

/-- The keys of `d` are keys of `b` in the order in which `b` has them, followed by keys that `b` has not. -/
def KeepsOrder (b d : Document) : Prop :=
  ∃ kept new, d.keys = kept ++ new ∧ kept.Sublist b.keys ∧ ∀ k ∈ new, k ∉ b.keys

namespace KeepsOrder

theorem refl (b : Document) : KeepsOrder b b :=
  ⟨b.keys, [], (List.append_nil _).symm, .refl _, fun _ h => absurd h List.not_mem_nil⟩

theorem of_keys_eq {d' : Document} (h : KeepsOrder b d) (heq : d'.keys = d.keys) : KeepsOrder b d' := by
  obtain ⟨kept, new, hkeys, hkept, hnew⟩ := h
  exact ⟨kept, new, heq.trans hkeys, hkept, hnew⟩

/-- The value under the key has to be the old one: a key that is left out first and put back later does not return to
its place. -/
theorem edit (h : KeepsOrder b d) (hd : d.isMapping = true) {key : ListKey} (hkey : d.get? key.text = b.get? key.text)
    (label : Nat) (e : ListEdit) : KeepsOrder b (d.edit key label e) := by
  cases e with
  | keep => exact h
  | remove =>
    obtain ⟨kept, new, hkeys, hkept, hnew⟩ := h
    refine ⟨kept.filter fun k => !k.sameKey (.text key.text), new.filter fun k => !k.sameKey (.text key.text), ?_,
      List.filter_sublist.trans hkept, fun k hk => hnew k ((List.mem_filter.mp hk).1)⟩
    rw [Document.edit, keys_erase, hkeys, List.filter_append]
  | write texts =>
    have hkeys := keys_put hd key.text (ofTexts label texts)
    by_cases hhas : d.has key.text = true
    · rw [if_pos hhas] at hkeys
      exact h.of_keys_eq hkeys
    · rw [if_neg hhas] at hkeys
      obtain ⟨kept, new, hold, hkept, hnew⟩ := h
      refine ⟨kept, new ++ [.text key.text], ?_, hkept, fun k hk => ?_⟩
      · rw [Document.edit, hkeys, hold, List.append_assoc]
      · rcases List.mem_append.mp hk with hk | hk
        · exact hnew k hk
        · rw [List.mem_singleton.mp hk, mem_keys_iff, ← has_of_get?_eq hkey]
          exact hhas

end KeepsOrder

/-! ### Documents without shared objects -/

/-- No two places of a document hold one object: no label stands twice, and no alias leads back to a collection
around it. -/
structure IsUnshared (d : Document) : Prop where
  labels : d.labels.Nodup
  acyclic : d.isCyclic = false

namespace IsUnshared

theorem isRooted (h : b.IsUnshared) {l : Nat} (hl : b.mapLabel? = some l) : IsRooted l b := by
  cases b with
  | map l' es =>
    cases hl
    exact ⟨es, rfl, (List.nodup_cons.mp h.labels).1⟩
  | _ => cases hl

/-- The block of a rule is the value under its id. -/
theorem block?_eq (h : b.IsUnshared) (rule : Text) : b.block? rule = b.get? rule := by
  have hentries : ∀ (es : List (Document × Document)) (x : Nat), anyCyclicEntry es = false →
      getKey? rule es ≠ some (.enclosing x) := by
    intro es x hes hget
    induction es with
    | nil => cases hget
    | cons e es ih =>
      obtain ⟨k, v⟩ := e
      rw [anyCyclicEntry, Bool.or_eq_false_iff, Bool.or_eq_false_iff] at hes
      rw [getKey?] at hget
      split at hget
      · cases hget
        cases hes.1.2
      · exact ih hes.2 hget
  unfold block?
  split
  · rename_i x hget
    cases b with
    | map l es => exact absurd hget (hentries es x h.acyclic)
    | _ => cases hget
  · rfl

/-- If no two places hold one object, a mapping under a key is switched on under this key only. -/
theorem switchOnEntries_eq {rule : Text} {l : Nat} {inside es : List (Document × Document)}
    (hes : (labelsOfEntries es).Nodup) (hget : getKey? rule es = some (.map l inside)) :
    switchOnEntries l es = putKey (.text rule) (.map l (putKey (.text "enabled") (.bool true) inside)) es := by
  induction es with
  | nil => cases hget
  | cons e es ih =>
    obtain ⟨k, v⟩ := e
    rw [labelsOfEntries] at hes
    obtain ⟨hv, hrest, hapart⟩ := List.nodup_append.mp (List.nodup_append.mp hes).2.1
    rw [getKey?] at hget
    rw [switchOnEntries, putKey]
    split at hget
    · cases hget
      have hinside : l ∉ labelsOfEntries inside := (List.nodup_cons.mp hv).1
      have hafter : l ∉ labelsOfEntries es := fun hl => hapart l List.mem_cons_self l hl rfl
      have hself : (Document.map l inside).switchOn l = .map l (putKey (.text "enabled") (.bool true) inside) := by
        rw [switchOn, switchOnEntries_of_not_mem hinside]
        exact congrArg (Document.map l) (if_pos rfl)
      rw [if_pos ‹_›, hself, switchOnEntries_of_not_mem hafter]
    · have hl : l ∈ labelsOfEntries es := mem_labelsOfEntries_of_getKey? hget List.mem_cons_self
      have hvalue : l ∉ v.labels := fun hmem => hapart l hmem l hl rfl
      rw [if_neg ‹_›, switchOn_of_not_mem hvalue, ih hrest hget]


/-- In such a configuration, to switch on the mapping that switches a rule off is to set its flag under the id of the
rule. -/
theorem switchOnAt_eq (h : b.IsUnshared) (rule : Text) : b.switchOnAt (b.offLabel? rule) =
    match b.get? rule with
    | some v => if v.isSwitchedOff then b.put rule (v.put "enabled" (.bool true)) else b
    | none => b := by
  unfold offLabel?
  rw [h.block?_eq]
  cases hget : b.get? rule with
  | none => rfl
  | some v =>
    by_cases hoff : v.isSwitchedOff = true
    · simp only [if_pos hoff]
      cases b with
      | map l es =>
        cases v with
        | map l' inside =>
          obtain ⟨hroot, hes⟩ := List.nodup_cons.mp h.labels
          have hl' : l' ∈ labelsOfEntries es := mem_labelsOfEntries_of_getKey? hget List.mem_cons_self
          have hne : l ≠ l' := fun heq => hroot (heq ▸ hl')
          show (Document.map l es).switchOn l' = _
          simp only [switchOn, if_neg hne, switchOnEntries_eq hes hget]
          rfl
        | _ => cases hoff
      | _ => cases hget
    · simp only [if_neg hoff]
      rfl

/-- Not the configuration itself is what switches a rule off. -/
theorem offLabel?_ne (h : b.IsUnshared) {rule : Text} {l : Nat} (hoff : b.offLabel? rule = some l) :
    b.mapLabel? ≠ some l := by
  intro hl
  obtain ⟨es, rfl, hroot⟩ := h.isRooted hl
  unfold offLabel? at hoff
  rw [h.block?_eq] at hoff
  split at hoff
  · rename_i v hget
    split at hoff
    · cases v with
      | map l' inside =>
        cases hoff
        exact hroot (mem_labelsOfEntries_of_getKey? hget List.mem_cons_self)
      | _ => cases hoff
    · cases hoff
  · cases hoff

end IsUnshared

/-! ### What an overlay keeps -/

theorem get?_core {k : Text} (hk : isListKey (.text k) = false) (d : Document) : d.core.get? k = d.get? k := by
  have hentries : ∀ es : List (Document × Document), getKey? k (es.filter fun e => !isListKey e.1) = getKey? k es := by
    intro es
    induction es with
    | nil => rfl
    | cons e es ih =>
      obtain ⟨k', v⟩ := e
      by_cases heq : k' = .text k
      · simp [getKey?, sameKey_text_iff, heq, hk]
      · by_cases hlist : isListKey k' = true <;> simp [getKey?, sameKey_text_iff, heq, hlist, ih]
  cases d with
  | map l es => exact hentries es
  | _ => rfl

/-- Without the lists and a key it does not matter what stands under this key. -/
theorem core_put_erase (d : Document) (k : Text) (v : Document) : (d.put k v).core.erase k = d.core.erase k := by
  cases d with
  | map l es =>
    have hdrop : (!(Document.text k).sameKey (.text k) && !isListKey (.text k)) = false := by
      rw [sameKey_text_iff.mpr rfl]
      rfl
    have h : (putKey (.text k) v es).filter (fun e => !e.1.sameKey (.text k) && !isListKey e.1) =
        es.filter fun e => !e.1.sameKey (.text k) && !isListKey e.1 :=
      filter_putKey_of_not (fun k' => !k'.sameKey (.text k) && !isListKey k') hdrop v
    rw [← List.filter_filter, ← List.filter_filter] at h
    exact congrArg (Document.map l) h
  | _ => rfl

/-- What an overlay `d` for a rule has in common with its configuration `b`. -/
structure Frame (rule : Text) (isOptin exclude : Bool) (b d : Document) : Prop where
  others : d.core.erase rule = b.core.erase rule
  order : KeepsOrder b d
  block : (∀ key : ListKey, rule ≠ key.text) → d.get? rule =
    (b.get? rule).map fun v => if v.isSwitchedOff then v.put "enabled" (.bool true) else v
  optIn : isOptin = false → d.get? ListKey.optIn.text = b.get? ListKey.optIn.text
  excluded : exclude = false → d.get? ListKey.excluded.text = b.get? ListKey.excluded.text
  disabled : (d.get? ListKey.disabled.text).map unlabelled =
    match (b.textsAt .disabled).filter (· ≠ rule) with
    | [] => none
    | left => some (ofTexts 0 left)

namespace IsUnshared

/-- The keys of an overlay are those of its configuration in their order, and new ones. -/
theorem keepsOrder_revised (hu : b.IsUnshared) (h : b.IsConfiguration) (e : ListKey → ListEdit) (rule : Text) :
    KeepsOrder b (b.revised e (b.offLabel? rule)) := by
  let d₁ := b.edit .disabled (b.newLabel .disabled) (e .disabled)
  let d₂ := d₁.edit .optIn (b.newLabel .optIn) (e .optIn)
  let d₃ := d₂.edit .only (b.newLabel .only) (e .only)
  have h₁ : d₁.IsConfiguration := isConfiguration_edit h _ _ _
  have h₂ : d₂.IsConfiguration := isConfiguration_edit h₁ _ _ _
  have h₃ : d₃.IsConfiguration := isConfiguration_edit h₂ _ _ _
  have get₁ : ∀ {k : Text}, k ≠ ListKey.disabled.text → d₁.get? k = b.get? k := fun hk => get?_edit_of_ne hk _ _ _
  have get₂ : ∀ {k : Text}, k ≠ ListKey.optIn.text → d₂.get? k = d₁.get? k := fun hk => get?_edit_of_ne hk _ _ _
  have get₃ : ∀ {k : Text}, k ≠ ListKey.only.text → d₃.get? k = d₂.get? k := fun hk => get?_edit_of_ne hk _ _ _
  have o₁ : KeepsOrder b d₁ := (KeepsOrder.refl b).edit h.isMapping rfl _ _
  have o₂ : KeepsOrder b d₂ := o₁.edit h₁.isMapping (get₁ (by decide)) _ _
  have o₃ : KeepsOrder b d₃ := o₂.edit h₂.isMapping ((get₂ (by decide)).trans (get₁ (by decide))) _ _
  have hroot : d₃.mapLabel? = b.mapLabel? := by
    rw [mapLabel?_edit, mapLabel?_edit, mapLabel?_edit]
  have o₄ : KeepsOrder b (d₃.switchOnAt (b.offLabel? rule)) := by
    cases hoff : b.offLabel? rule with
    | none => exact o₃
    | some l => exact o₃.of_keys_eq (keys_switchOn (hroot ▸ hu.offLabel?_ne hoff))
  refine o₄.edit (isConfiguration_switchOnAt h₃ _).isMapping ?_ _ _
  rw [get?_text_switchOnAt h₃, get₃ (by decide), get₂ (by decide), get₁ (by decide)]

theorem frame_revised (hu : b.IsUnshared) (h : b.IsConfiguration) (rule : Text) (isOptin : Bool)
    (workspace : Option Text) (exclude : Bool) : Frame rule isOptin exclude b
      (b.revised (b.editFor rule isOptin workspace exclude) (b.offLabel? rule)) := by
  let e := b.editFor rule isOptin workspace exclude
  let d := b.revised e (b.offLabel? rule)
  have ho : IsOverlay rule isOptin workspace exclude b d :=
    ⟨isConfiguration_revised h _ _, core_revised b _ _, get?_revised h _ _⟩
  have hcore : d.core = (b.switchOnAt (b.offLabel? rule)).core := ho.core.trans (core_switchOnAt b _).symm
  rw [hu.switchOnAt_eq rule] at hcore
  refine ⟨?_, hu.keepsOrder_revised h e rule, fun hkey => ?_, fun ho' => ?_, fun he => ?_, ho.get?_disabled⟩
  · rw [hcore]
    split
    · split
      · exact core_put_erase b rule _
      · rfl
    · rfl
  · have hlist : isListKey (.text rule) = false := by
      rw [Bool.eq_false_iff, Ne, isListKey_text_iff]
      exact fun ⟨key, heq⟩ => hkey key heq
    rw [← get?_core hlist d, hcore, get?_core hlist]
    cases hget : b.get? rule with
    | none => exact hget
    | some v =>
      simp only [Option.map_some]
      split
      · exact get?_put_self (h.isMapping) rule _
      · exact hget
  · rw [ho.get?_optIn, ho']
    rfl
  · rw [ho.get?_excluded, he]
    rfl

end IsUnshared

/-- A file with a list, a date, a block and limits. -/
def nestedFile : FileTree :=
  oneFile "b.yml"
    "since: 2024-05-01\ndisabled_rules: [a, b]\na: \x7bseverity: error, enabled: false\x7d\nlimits: [120, 200]\n"

/-- What that file holds. No label stands twice. -/
def nested : Document := .map 0 [
  (.text "since", .moment 2 (.day ⟨2024, 5, 1⟩)),
  (.text "disabled_rules", .list 4 [.text "a", .text "b"]),
  (.text "a", .map 8 [(.text "severity", .text "error"), (.text "enabled", .bool false)]),
  (.text "limits", .list 14 [.int 120, .int 200])]

end Document

end LintPreview
