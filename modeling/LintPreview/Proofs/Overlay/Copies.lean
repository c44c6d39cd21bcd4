import LintPreview.Proofs.Overlay.Edits

/-!
# Overlays are built on a copy

The collections of a configuration are objects that several documents can hold, and whoever holds an object sees what
is changed in it. The labels say which object stands where.

* `Document.changeAt`: a document after a change of the mapping with a label, wherever this mapping stands.
* `Document.copyFrom`: a copy of a document. It holds new objects only, one for each old one.
* `View.enable`: the edits of `Document.enable` as changes of objects in place, seen by the overlay and by all documents
  that others hold.
* `View.enable_eq`: if no changed object is held by others, they see nothing of it.
* `View.enable_copyFrom`: so on a copy the changes lead to a copy of the overlay and leave the configuration as it was.
-/

namespace LintPreview

namespace Document

variable {d d' : Document}

/-! ### Changes in place -/

mutual

/-- A document after a change of the entries of the mapping with a label. -/
def changeAt (label : Nat) (change : List (Document × Document) → List (Document × Document)) : Document → Document
  | .list l items => .list l (changeItemsAt label change items)
  | .map l entries =>
    let inside := changeEntriesAt label change entries
    .map l (if l = label then change inside else inside)
  | d => d

/-- Items after such a change. -/
def changeItemsAt (label : Nat) (change : List (Document × Document) → List (Document × Document)) :
    List Document → List Document
  | [] => []
  | d :: rest => changeAt label change d :: changeItemsAt label change rest

/-- Entries after such a change. -/
def changeEntriesAt (label : Nat) (change : List (Document × Document) → List (Document × Document)) :
    List (Document × Document) → List (Document × Document)
  | [] => []
  | (k, v) :: rest => (k, changeAt label change v) :: changeEntriesAt label change rest

end

/-- The change by which a mapping is switched on. -/
def setEnabled (es : List (Document × Document)) : List (Document × Document) := putKey (.text "enabled") (.bool true) es

mutual

theorem changeAt_setEnabled (l : Nat) : ∀ d : Document, d.changeAt l setEnabled = d.switchOn l
  | .list _ items => by rw [changeAt, changeItemsAt_setEnabled l items, switchOn]
  | .map _ es => by rw [changeAt, changeEntriesAt_setEnabled l es, switchOn, setEnabled]
  | .null | .bool _ | .int _ | .float _ | .text _ | .bytes _ | .moment .. | .set .. | .enclosing _ => rfl

theorem changeItemsAt_setEnabled (l : Nat) : ∀ items, changeItemsAt l setEnabled items = switchOnItems l items
  | [] => rfl
  | d :: items => by rw [changeItemsAt, changeAt_setEnabled l d, changeItemsAt_setEnabled l items, switchOnItems]

theorem changeEntriesAt_setEnabled (l : Nat) : ∀ es, changeEntriesAt l setEnabled es = switchOnEntries l es
  | [] => rfl
  | (k, v) :: es => by
    rw [changeEntriesAt, changeAt_setEnabled l v, changeEntriesAt_setEnabled l es, switchOnEntries]

end

section Change

variable {l : Nat} (change : List (Document × Document) → List (Document × Document))

mutual

/-- Who does not hold an object does not see a change of it. -/
theorem changeAt_of_not_mem : ∀ {d : Document}, l ∉ d.labels → d.changeAt l change = d
  | .list _ items, h => by
    rw [labels, List.mem_cons, not_or] at h
    rw [changeAt, changeItemsAt_of_not_mem h.2]
  | .map _ es, h => by
    rw [labels, List.mem_cons, not_or] at h
    rw [changeAt, changeEntriesAt_of_not_mem h.2]
    exact congrArg (Document.map _) (if_neg (Ne.symm h.1))
  | .null, _ | .bool _, _ | .int _, _ | .float _, _ | .text _, _ | .bytes _, _ | .moment .., _ | .set .., _
  | .enclosing _, _ => rfl

theorem changeItemsAt_of_not_mem : ∀ {items : List Document}, l ∉ labelsOfItems items →
    changeItemsAt l change items = items
  | [], _ => rfl
  | _ :: _, h => by
    rw [labelsOfItems, List.mem_append, not_or] at h
    rw [changeItemsAt, changeAt_of_not_mem h.1, changeItemsAt_of_not_mem h.2]

theorem changeEntriesAt_of_not_mem : ∀ {es : List (Document × Document)}, l ∉ labelsOfEntries es →
    changeEntriesAt l change es = es
  | [], _ => rfl
  | (_, _) :: _, h => by
    rw [labelsOfEntries, List.mem_append, not_or, List.mem_append, not_or] at h
    rw [changeEntriesAt, changeAt_of_not_mem h.2.1, changeEntriesAt_of_not_mem h.2.2]

end

end Change

theorem switchOn_of_not_mem {l : Nat} (h : l ∉ d.labels) : d.switchOn l = d := by
  rw [← changeAt_setEnabled, changeAt_of_not_mem setEnabled h]

theorem switchOnEntries_of_not_mem {l : Nat} {es : List (Document × Document)} (h : l ∉ labelsOfEntries es) :
    switchOnEntries l es = es := by
  rw [← changeEntriesAt_setEnabled, changeEntriesAt_of_not_mem setEnabled h]

/-! ### Labels -/

theorem mem_labelsOfEntries_putKey {x : Nat} {k : Text} {v : Document} {es : List (Document × Document)}
    (h : x ∈ labelsOfEntries (putKey (.text k) v es)) : x ∈ v.labels ∨ x ∈ labelsOfEntries es := by
  induction es with
  | nil => simpa [putKey, labelsOfEntries, labels] using h
  | cons e es ih =>
    obtain ⟨k', w⟩ := e
    rw [putKey] at h
    split at h
    · simp only [labelsOfEntries, List.mem_append] at h ⊢
      rcases h with h | h | h
      · exact .inr (.inl h)
      · exact .inl h
      · exact .inr (.inr (.inr h))
    · simp only [labelsOfEntries, List.mem_append] at h ⊢
      rcases h with h | h | h
      · exact .inr (.inl h)
      · exact .inr (.inr (.inl h))
      · exact (ih h).imp_right fun h => .inr (.inr h)

theorem mem_labelsOfEntries_eraseKey {x : Nat} {k : Text} {es : List (Document × Document)}
    (h : x ∈ labelsOfEntries (eraseKey k es)) : x ∈ labelsOfEntries es := by
  induction es with
  | nil => cases h
  | cons e es ih =>
    obtain ⟨k', w⟩ := e
    unfold eraseKey at h ih
    rw [List.filter_cons] at h
    simp only [labelsOfEntries, List.mem_append]
    split at h
    · simp only [labelsOfEntries, List.mem_append] at h
      exact h.imp_right fun h => h.imp_right ih
    · exact .inr (.inr (ih h))

theorem labels_ofTexts (label : Nat) (ts : List Text) : (ofTexts label ts).labels = [label] := by
  have hitems : labelsOfItems (ts.map .text) = [] := by
    induction ts with
    | nil => rfl
    | cons t ts ih =>
      rw [List.map_cons, labelsOfItems, ih]
      rfl
  rw [ofTexts, labels, hitems]

mutual

/-- Switching a mapping on brings no new object. -/
theorem mem_labels_of_switchOn {l x : Nat} : ∀ {d : Document}, x ∈ (d.switchOn l).labels → x ∈ d.labels
  | .list _ items, h => by
    rw [switchOn, labels, List.mem_cons] at h
    rw [labels, List.mem_cons]
    exact h.imp_right mem_labelsOfItems_of_switchOn
  | .map _ es, h => by
    simp only [switchOn, labels, List.mem_cons] at h ⊢
    refine h.imp_right fun h => ?_
    split at h
    · rcases mem_labelsOfEntries_putKey h with h | h
      · cases h
      · exact mem_labelsOfEntries_of_switchOn h
    · exact mem_labelsOfEntries_of_switchOn h
  | .null, h | .bool _, h | .int _, h | .float _, h | .text _, h | .bytes _, h | .moment .., h | .set .., h
  | .enclosing _, h => h

theorem mem_labelsOfItems_of_switchOn {l x : Nat} : ∀ {items : List Document},
    x ∈ labelsOfItems (switchOnItems l items) → x ∈ labelsOfItems items
  | [], h => h
  | _ :: _, h => by
    rw [switchOnItems, labelsOfItems, List.mem_append] at h
    rw [labelsOfItems, List.mem_append]
    exact h.imp mem_labels_of_switchOn mem_labelsOfItems_of_switchOn

theorem mem_labelsOfEntries_of_switchOn {l x : Nat} : ∀ {es : List (Document × Document)},
    x ∈ labelsOfEntries (switchOnEntries l es) → x ∈ labelsOfEntries es
  | [], h => h
  | (_, _) :: _, h => by
    rw [switchOnEntries, labelsOfEntries, List.mem_append, List.mem_append] at h
    rw [labelsOfEntries, List.mem_append, List.mem_append]
    exact h.imp_right fun h => h.imp mem_labels_of_switchOn mem_labelsOfEntries_of_switchOn

end

mutual

theorem lt_freshLabel {x : Nat} : ∀ {d : Document}, x ∈ d.labels → x < d.freshLabel
  | .moment l _, h | .enclosing l, h => by
    rw [labels, List.mem_singleton] at h
    rw [freshLabel, h]
    exact Nat.lt_succ_self l
  | .list l items, h | .set l items, h => by
    rw [labels, List.mem_cons] at h
    rw [freshLabel]
    rcases h with rfl | h
    · omega
    · have := lt_freshOfItems h
      omega
  | .map l es, h => by
    rw [labels, List.mem_cons] at h
    rw [freshLabel]
    rcases h with rfl | h
    · omega
    · have := lt_freshOfEntries h
      omega
  | .null, h | .bool _, h | .int _, h | .float _, h | .text _, h | .bytes _, h => nomatch h

theorem lt_freshOfItems {x : Nat} : ∀ {items : List Document}, x ∈ labelsOfItems items → x < freshOfItems items
  | [], h => nomatch h
  | _ :: _, h => by
    rw [labelsOfItems, List.mem_append] at h
    rw [freshOfItems]
    rcases h with h | h
    · have := lt_freshLabel h
      omega
    · have := lt_freshOfItems h
      omega

theorem lt_freshOfEntries {x : Nat} : ∀ {es : List (Document × Document)},
    x ∈ labelsOfEntries es → x < freshOfEntries es
  | [], h => nomatch h
  | (_, _) :: _, h => by
    rw [labelsOfEntries, List.mem_append, List.mem_append] at h
    rw [freshOfEntries]
    rcases h with h | h | h
    · have := lt_freshLabel h
      omega
    · have := lt_freshLabel h
      omega
    · have := lt_freshOfEntries h
      omega

end

theorem mem_labelsOfEntries_of_getKey? {k : Text} {v : Document} {es : List (Document × Document)}
    (h : getKey? k es = some v) {x : Nat} (hx : x ∈ v.labels) : x ∈ labelsOfEntries es := by
  induction es with
  | nil => cases h
  | cons e es ih =>
    obtain ⟨k', w⟩ := e
    rw [labelsOfEntries, List.mem_append, List.mem_append]
    rw [getKey?] at h
    split at h
    · cases h
      exact .inr (.inl hx)
    · exact .inr (.inr (ih h))

/-- The mapping that switches a rule off stands in the configuration. -/
theorem mem_labels_of_offLabel? {rule : Text} {l : Nat} (h : d.offLabel? rule = some l) : l ∈ d.labels := by
  have hmap : ∀ b : Document, b.mapLabel? = some l → l ∈ b.labels := by
    intro b hb
    cases b with
    | map l' es =>
      cases hb
      exact List.mem_cons_self
    | _ => cases hb
  have hentry : ∀ v, d.get? rule = some v → l ∈ v.labels → l ∈ d.labels := by
    intro v hv hl
    cases d with
    | map l' es => exact List.mem_cons_of_mem l' (mem_labelsOfEntries_of_getKey? hv hl)
    | _ => cases hv
  unfold offLabel? at h
  split at h
  · rename_i b hb
    split at h
    · unfold block? at hb
      split at hb
      · cases hb
        exact hmap d h
      · exact hentry b hb (hmap b h)
    · cases h
  · cases h

/-- A mapping with a label that stands nowhere inside it. -/
def IsRooted (l : Nat) (d : Document) : Prop := ∃ es, d = .map l es ∧ l ∉ labelsOfEntries es

namespace IsRooted

variable {l : Nat}

theorem changeAt (h : IsRooted l d) (change : List (Document × Document) → List (Document × Document)) :
    ∃ es, d = .map l es ∧ d.changeAt l change = .map l (change es) := by
  obtain ⟨es, rfl, hl⟩ := h
  refine ⟨es, rfl, ?_⟩
  rw [Document.changeAt, changeEntriesAt_of_not_mem change hl]
  exact congrArg (Document.map l) (if_pos rfl)

theorem edit (h : IsRooted l d) {label : Nat} (hlabel : label ≠ l) (key : ListKey) (e : ListEdit) :
    IsRooted l (d.edit key label e) := by
  obtain ⟨es, rfl, hl⟩ := h
  cases e with
  | keep => exact ⟨es, rfl, hl⟩
  | remove => exact ⟨_, rfl, fun h => hl (mem_labelsOfEntries_eraseKey h)⟩
  | write texts =>
    refine ⟨_, rfl, fun h => ?_⟩
    rcases mem_labelsOfEntries_putKey h with h | h
    · rw [labels_ofTexts, List.mem_singleton] at h
      exact hlabel h.symm
    · exact hl h

theorem switchOnAt (h : IsRooted l d) (off : Option Nat) : IsRooted l (d.switchOnAt off) := by
  cases off with
  | none => exact h
  | some l' =>
    obtain ⟨es, rfl, hl⟩ := h
    refine ⟨_, rfl, fun h => hl ?_⟩
    have h' : l ∈ ((Document.map l es).switchOn l').labels.tail := h
    simp only [switchOn, labels, List.tail_cons] at h'
    split at h'
    · rcases mem_labelsOfEntries_putKey h' with h' | h'
      · cases h'
      · exact mem_labelsOfEntries_of_switchOn h'
    · exact mem_labelsOfEntries_of_switchOn h'

end IsRooted

/-! ### Copies -/

mutual

/-- A copy of a document. Where the object with the label `l` stands, the copy has the one with the label `n + l`. -/
def copyFrom (n : Nat) : Document → Document
  | .moment l m => .moment (n + l) m
  | .list l items => .list (n + l) (copyItems n items)
  | .map l entries => .map (n + l) (copyEntries n entries)
  | .set l items => .set (n + l) (copyItems n items)
  | .enclosing l => .enclosing (n + l)
  | d => d

/-- Copies of items. -/
def copyItems (n : Nat) : List Document → List Document
  | [] => []
  | d :: rest => copyFrom n d :: copyItems n rest

/-- Copies of entries. -/
def copyEntries (n : Nat) : List (Document × Document) → List (Document × Document)
  | [] => []
  | (k, v) :: rest => (copyFrom n k, copyFrom n v) :: copyEntries n rest

end

section Copy

variable (n : Nat)

mutual

theorem labels_copyFrom : ∀ d : Document, (d.copyFrom n).labels = d.labels.map (n + ·)
  | .list _ items | .set _ items => by rw [copyFrom, labels, labels, labelsOfItems_copyItems items, List.map_cons]
  | .map _ es => by rw [copyFrom, labels, labels, labelsOfEntries_copyEntries es, List.map_cons]
  | .null | .bool _ | .int _ | .float _ | .text _ | .bytes _ | .moment .. | .enclosing _ => rfl

theorem labelsOfItems_copyItems : ∀ items, labelsOfItems (copyItems n items) = (labelsOfItems items).map (n + ·)
  | [] => rfl
  | d :: items => by
    rw [copyItems, labelsOfItems, labelsOfItems, List.map_append, labels_copyFrom d, labelsOfItems_copyItems items]

theorem labelsOfEntries_copyEntries : ∀ es, labelsOfEntries (copyEntries n es) = (labelsOfEntries es).map (n + ·)
  | [] => rfl
  | (k, v) :: es => by
    rw [copyEntries, labelsOfEntries, labelsOfEntries, List.map_append, List.map_append, labels_copyFrom k,
      labels_copyFrom v, labelsOfEntries_copyEntries es]

end

mutual

/-- From `n` on, the labels of a copy are used up as those of the document are. -/
theorem max_freshLabel_copyFrom : ∀ d : Document, max n (d.copyFrom n).freshLabel = n + d.freshLabel
  | .list _ items | .set _ items => by
    have := max_freshOfItems_copyItems items
    rw [copyFrom, freshLabel, freshLabel]
    omega
  | .map _ es => by
    have := max_freshOfEntries_copyEntries es
    rw [copyFrom, freshLabel, freshLabel]
    omega
  | .moment l _ | .enclosing l => by
    rw [copyFrom, freshLabel, freshLabel]
    omega
  | .null | .bool _ | .int _ | .float _ | .text _ | .bytes _ => Nat.max_eq_left (Nat.zero_le n)

theorem max_freshOfItems_copyItems : ∀ items, max n (freshOfItems (copyItems n items)) = n + freshOfItems items
  | [] => Nat.max_eq_left (Nat.zero_le n)
  | d :: items => by
    have := max_freshLabel_copyFrom d
    have := max_freshOfItems_copyItems items
    rw [copyItems, freshOfItems, freshOfItems]
    omega

theorem max_freshOfEntries_copyEntries :
    ∀ es, max n (freshOfEntries (copyEntries n es)) = n + freshOfEntries es
  | [] => Nat.max_eq_left (Nat.zero_le n)
  | (k, v) :: es => by
    have := max_freshLabel_copyFrom k
    have := max_freshLabel_copyFrom v
    have := max_freshOfEntries_copyEntries es
    rw [copyEntries, freshOfEntries, freshOfEntries]
    omega

end

theorem newLabel_copyFrom (h : d.isMapping = true) (key : ListKey) :
    (d.copyFrom n).newLabel key = n + d.newLabel key := by
  have hfresh : (d.copyFrom n).freshLabel = n + d.freshLabel := by
    rw [← max_freshLabel_copyFrom n d]
    cases d with
    | map l es =>
      rw [copyFrom, freshLabel]
      omega
    | _ => cases h
  cases key <;> simp only [newLabel, hfresh, Nat.add_assoc]

/-! What is read from a copy. -/

theorem copyFrom_eq_text_iff {s : Text} : d.copyFrom n = .text s ↔ d = .text s := by
  cases d <;> simp [copyFrom]

theorem copyFrom_eq_bool_iff {b : Bool} : d.copyFrom n = .bool b ↔ d = .bool b := by
  cases d <;> simp [copyFrom]

theorem sameKey_text_copyFrom (k : Document) (s : Text) : (k.copyFrom n).sameKey (.text s) = k.sameKey (.text s) := by
  rw [Bool.eq_iff_iff, sameKey_text_iff, sameKey_text_iff, copyFrom_eq_text_iff]

theorem getKey?_copyEntries (k : Text) (es : List (Document × Document)) :
    getKey? k (copyEntries n es) = (getKey? k es).map (copyFrom n) := by
  induction es with
  | nil => rfl
  | cons e es ih =>
    obtain ⟨k', v⟩ := e
    rw [copyEntries, getKey?, getKey?, sameKey_text_copyFrom, ih]
    split <;> rfl

theorem get?_copyFrom (d : Document) (k : Text) : (d.copyFrom n).get? k = (d.get? k).map (copyFrom n) := by
  cases d with
  | map l es => exact getKey?_copyEntries n k es
  | _ => rfl

theorem has_copyFrom (d : Document) (k : Text) : (d.copyFrom n).has k = d.has k := by
  rw [has, has, get?_copyFrom, Option.isSome_map]

theorem copyItems_of_all_isText {items : List Document} (h : items.all isText = true) : copyItems n items = items := by
  induction items with
  | nil => rfl
  | cons d items ih =>
    rw [List.all_cons, Bool.and_eq_true] at h
    cases d with
    | text s =>
      rw [copyItems, ih h.2]
      rfl
    | _ => cases h.1

theorem isListOfTexts_copyFrom {v : Document} (h : isListOfTexts v = true) : isListOfTexts (v.copyFrom n) = true := by
  cases v with
  | list l items =>
    rw [copyFrom, copyItems_of_all_isText n h]
    exact h
  | _ => exact h

/-- A copy lists the same texts. -/
theorem listed_copyFrom {v : Document} (h : isListOfTexts v = true) : (v.copyFrom n).listed = v.listed := by
  cases v with
  | list l items =>
    rw [copyFrom, copyItems_of_all_isText n h]
    rfl
  | null | text => rfl
  | _ => cases h

theorem getD_get?_copyFrom (d : Document) (k : Text) :
    ((d.copyFrom n).get? k).getD .null = ((d.get? k).getD .null).copyFrom n := by
  rw [get?_copyFrom]
  cases d.get? k <;> rfl

theorem isConfiguration_copyFrom (h : d.IsConfiguration) : (d.copyFrom n).IsConfiguration where
  isMapping := by
    have hmapping := h.isMapping
    cases d with
    | map l es => rfl
    | _ => cases hmapping
  listsTexts key := by
    rw [getD_get?_copyFrom]
    exact isListOfTexts_copyFrom n (h.listsTexts key)

theorem editFor_copyFrom (h : d.IsConfiguration) (rule : Text) (isOptin : Bool) (workspace : Option Text)
    (exclude : Bool) :
    (d.copyFrom n).editFor rule isOptin workspace exclude = d.editFor rule isOptin workspace exclude := by
  have htexts : ∀ key, (d.copyFrom n).textsAt key = d.textsAt key := fun key => by
    rw [textsAt, listedAt, getD_get?_copyFrom, listed_copyFrom n (h.listsTexts key)]
    rfl
  funext key
  cases key <;> simp only [editFor, htexts, has_copyFrom]

theorem isSwitchedOff_copyFrom (d : Document) : (d.copyFrom n).isSwitchedOff = d.isSwitchedOff := by
  rw [Bool.eq_iff_iff, isSwitchedOff_iff, isSwitchedOff_iff, get?_copyFrom, Option.map_eq_some_iff]
  constructor
  · rintro ⟨v, hv, hoff⟩
    rw [hv, (copyFrom_eq_bool_iff n).mp hoff]
  · exact fun h => ⟨_, h, rfl⟩

/-- What switches a rule off in a copy is the copy of what does so in the document. -/
theorem offLabel?_copyFrom (d : Document) (rule : Text) :
    (d.copyFrom n).offLabel? rule = (d.offLabel? rule).map (n + ·) := by
  have hblock : (d.copyFrom n).block? rule = (d.block? rule).map (copyFrom n) := by
    unfold block?
    rw [get?_copyFrom]
    cases d.get? rule with
    | none => rfl
    | some v => cases v <;> rfl
  have hlabel : ∀ v : Document, (v.copyFrom n).mapLabel? = v.mapLabel?.map (n + ·) := fun v => by cases v <;> rfl
  unfold offLabel?
  rw [hblock]
  cases d.block? rule with
  | none => rfl
  | some v =>
    simp only [Option.map_some, isSwitchedOff_copyFrom, hlabel]
    split <;> rfl

/-! What is changed in a copy. -/

theorem copyEntries_putKey (k : Text) (v : Document) (es : List (Document × Document)) :
    copyEntries n (putKey (.text k) v es) = putKey (.text k) (v.copyFrom n) (copyEntries n es) := by
  induction es with
  | nil => rfl
  | cons e es ih =>
    obtain ⟨k', w⟩ := e
    rw [copyEntries, putKey, putKey, sameKey_text_copyFrom, ← ih]
    split <;> rfl

theorem copyEntries_eraseKey (k : Text) (es : List (Document × Document)) :
    copyEntries n (eraseKey k es) = eraseKey k (copyEntries n es) := by
  induction es with
  | nil => rfl
  | cons e es ih =>
    obtain ⟨k', w⟩ := e
    unfold eraseKey at ih ⊢
    rw [copyEntries, List.filter_cons, List.filter_cons, ← ih]
    simp only [sameKey_text_copyFrom]
    split <;> rfl

theorem copyFrom_ofTexts (label : Nat) (ts : List Text) : (ofTexts label ts).copyFrom n = ofTexts (n + label) ts := by
  rw [ofTexts, copyFrom, copyItems_of_all_isText n (by simp [isText]), ofTexts]

theorem copyFrom_edit (d : Document) (key : ListKey) (label : Nat) (e : ListEdit) :
    (d.edit key label e).copyFrom n = (d.copyFrom n).edit key (n + label) e := by
  cases d with
  | map l es =>
    cases e with
    | keep => rfl
    | remove => exact congrArg (Document.map _) (copyEntries_eraseKey n key.text es)
    | write texts =>
      have h := copyEntries_putKey n key.text (ofTexts label texts) es
      rw [copyFrom_ofTexts] at h
      exact congrArg (Document.map _) h
  | _ => cases e <;> rfl

mutual

theorem copyFrom_switchOn (l : Nat) : ∀ d : Document, (d.switchOn l).copyFrom n = (d.copyFrom n).switchOn (n + l)
  | .list _ items => by rw [switchOn, copyFrom, copyFrom, switchOn, copyItems_switchOn l items]
  | .map _ es => by
    simp only [switchOn, copyFrom, ← copyEntries_switchOn l es, Nat.add_left_cancel_iff]
    split
    · rw [copyEntries_putKey]
      rfl
    · rfl
  | .null | .bool _ | .int _ | .float _ | .text _ | .bytes _ | .moment .. | .set .. | .enclosing _ => rfl

theorem copyItems_switchOn (l : Nat) :
    ∀ items, copyItems n (switchOnItems l items) = switchOnItems (n + l) (copyItems n items)
  | [] => rfl
  | d :: items => by
    rw [switchOnItems, copyItems, copyFrom_switchOn l d, copyItems_switchOn l items, copyItems, switchOnItems]

theorem copyEntries_switchOn (l : Nat) :
    ∀ es, copyEntries n (switchOnEntries l es) = switchOnEntries (n + l) (copyEntries n es)
  | [] => rfl
  | (k, v) :: es => by
    rw [switchOnEntries, copyEntries, copyFrom_switchOn l v, copyEntries_switchOn l es, copyEntries, switchOnEntries]

end

/-- The copy of an edited document is the edited copy. -/
theorem copyFrom_revised (h : d.isMapping = true) (e : ListKey → ListEdit) (off : Option Nat) :
    (d.revised e off).copyFrom n = (d.copyFrom n).revised e (off.map (n + ·)) := by
  have hswitch : ∀ d : Document, (d.switchOnAt off).copyFrom n = (d.copyFrom n).switchOnAt (off.map (n + ·)) := by
    intro d
    cases off with
    | none => rfl
    | some l => exact copyFrom_switchOn n l d
  rw [revised, copyFrom_edit, hswitch, copyFrom_edit, copyFrom_edit, copyFrom_edit, revised, newLabel_copyFrom n h,
    newLabel_copyFrom n h, newLabel_copyFrom n h, newLabel_copyFrom n h]

theorem IsRooted.copyFrom {l : Nat} (h : IsRooted l d) : IsRooted (n + l) (d.copyFrom n) := by
  obtain ⟨es, rfl, hl⟩ := h
  refine ⟨_, rfl, fun hmem => ?_⟩
  rw [labelsOfEntries_copyEntries, List.mem_map] at hmem
  obtain ⟨x, hx, heq⟩ := hmem
  rw [Nat.add_left_cancel_iff] at heq
  exact hl (heq ▸ hx)

end Copy

end Document

/-! ### What others see -/

/-- The documents in view while an overlay is built: those that others hold, and the overlay. -/
structure View where
  held : List Document
  overlay : Document

namespace View

open Document

/-- A change of the mapping with a label. All that hold it see the change. -/
def change (s : View) (label : Nat) (change : List (Document × Document) → List (Document × Document)) : View :=
  ⟨s.held.map (changeAt label change), s.overlay.changeAt label change⟩

/-- A change of the entries of the overlay. -/
def changeOverlay (s : View) (change : List (Document × Document) → List (Document × Document)) : View :=
  match s.overlay.mapLabel? with
  | some l => s.change l change
  | none => s

/-- An edit under a list key of the overlay. -/
def edit (s : View) (key : ListKey) (label : Nat) : ListEdit → View
  | .keep => s
  | .remove => s.changeOverlay (eraseKey key.text)
  | .write texts => s.changeOverlay (putKey (.text key.text) (ofTexts label texts))

/-- The mapping of a label switched on, if there is a label. -/
def switchOnAt (s : View) : Option Nat → View
  | none => s
  | some l => s.change l setEnabled

/-- A rule switched on in the overlay by changes in place, one after the other. -/
def enable (s : View) (rule : Text) (isOptin : Bool) (workspace : Option Text) (exclude : Bool) : View :=
  let label := s.overlay.newLabel
  let e (s : View) := s.overlay.editFor rule isOptin workspace exclude
  let s := s.edit .disabled (label .disabled) (e s .disabled)
  let s := s.edit .optIn (label .optIn) (e s .optIn)
  let s := s.edit .only (label .only) (e s .only)
  let s := s.switchOnAt (s.overlay.offLabel? rule)
  s.edit .excluded (label .excluded) (e s .excluded)

variable {held : List Document} {d : Document} {l : Nat}

theorem change_eq (h : ∀ c ∈ held, l ∉ c.labels) (d : Document)
    (change : List (Document × Document) → List (Document × Document)) :
    (View.mk held d).change l change = ⟨held, d.changeAt l change⟩ := by
  have hheld : held.map (changeAt l change) = held := by
    conv => rhs; rw [← List.map_id held]
    exact List.map_congr_left fun c hc => changeAt_of_not_mem change (h c hc)
  rw [View.change, hheld]

theorem edit_eq (hroot : IsRooted l d) (h : ∀ c ∈ held, l ∉ c.labels) (key : ListKey) (label : Nat) (e : ListEdit) :
    (View.mk held d).edit key label e = ⟨held, d.edit key label e⟩ := by
  have hoverlay : ∀ f, ∃ es, d = .map l es ∧ (View.mk held d).changeOverlay f = ⟨held, .map l (f es)⟩ := by
    intro f
    obtain ⟨es, hes, hf⟩ := hroot.changeAt f
    refine ⟨es, hes, ?_⟩
    rw [changeOverlay, hes]
    show (View.mk held (.map l es)).change l f = _
    rw [change_eq h, ← hes, hf]
  cases e with
  | keep => rfl
  | remove =>
    obtain ⟨es, rfl, hf⟩ := hoverlay (eraseKey key.text)
    exact hf
  | write texts =>
    obtain ⟨es, rfl, hf⟩ := hoverlay (putKey (.text key.text) (ofTexts label texts))
    exact hf

theorem switchOnAt_eq {off : Option Nat} (h : ∀ c ∈ held, ∀ x, off = some x → x ∉ c.labels) (d : Document) :
    (View.mk held d).switchOnAt off = ⟨held, d.switchOnAt off⟩ := by
  cases off with
  | none => rfl
  | some x =>
    rw [switchOnAt, change_eq fun c hc => h c hc x rfl, changeAt_setEnabled]
    rfl

theorem newLabel_ne {x : Nat} (h : x ∈ d.labels) (key : ListKey) : d.newLabel key ≠ x := by
  have := lt_freshLabel h
  cases key <;> simp only [newLabel] <;> omega

/-- If no object of the overlay is held by others, they see nothing of the changes. -/
theorem enable_eq (hroot : IsRooted l d) (h : d.IsConfiguration) (hheld : ∀ c ∈ held, ∀ x ∈ d.labels, x ∉ c.labels)
    (rule : Text) (isOptin : Bool) (workspace : Option Text) (exclude : Bool) :
    (View.mk held d).enable rule isOptin workspace exclude =
      ⟨held, d.inTurn rule isOptin workspace exclude⟩ := by
  let d₁ := d.edit .disabled (d.newLabel .disabled) (d.editFor rule isOptin workspace exclude .disabled)
  let d₂ := d₁.edit .optIn (d.newLabel .optIn) (d₁.editFor rule isOptin workspace exclude .optIn)
  let d₃ := d₂.edit .only (d.newLabel .only) (d₂.editFor rule isOptin workspace exclude .only)
  have h₁ : d₁.IsConfiguration := isConfiguration_edit h _ _ _
  have h₂ : d₂.IsConfiguration := isConfiguration_edit h₁ _ _ _
  have hl : l ∈ d.labels := by
    obtain ⟨es, rfl, -⟩ := hroot
    exact List.mem_cons_self
  have hapart : ∀ c ∈ held, l ∉ c.labels := fun c hc => hheld c hc l hl
  have r₁ : IsRooted l d₁ := hroot.edit (newLabel_ne hl .disabled) _ _
  have r₂ : IsRooted l d₂ := r₁.edit (newLabel_ne hl .optIn) _ _
  have r₃ : IsRooted l d₃ := r₂.edit (newLabel_ne hl .only) _ _
  have hoff : ∀ c ∈ held, ∀ x, d₃.offLabel? rule = some x → x ∉ c.labels := by
    intro c hc x hx
    rw [offLabel?_edit h₂, offLabel?_edit h₁, offLabel?_edit h] at hx
    exact hheld c hc x (mem_labels_of_offLabel? hx)
  unfold enable
  dsimp only
  rw [edit_eq hroot hapart, edit_eq r₁ hapart, edit_eq r₂ hapart, switchOnAt_eq hoff, edit_eq (r₃.switchOnAt _) hapart]
  rfl

/-- On a copy the changes lead to a copy of the overlay, and they leave all documents as they were that were there when
the copy was made. -/
theorem enable_copyFrom (hroot : IsRooted l d) (h : d.IsConfiguration) {n : Nat} (hheld : ∀ c ∈ held, c.freshLabel ≤ n)
    (rule : Text) (isOptin : Bool) (workspace : Option Text) (exclude : Bool) :
    (View.mk held (d.copyFrom n)).enable rule isOptin workspace exclude =
      ⟨held, (d.revised (d.editFor rule isOptin workspace exclude) (d.offLabel? rule)).copyFrom n⟩ := by
  have hapart : ∀ c ∈ held, ∀ x ∈ (d.copyFrom n).labels, x ∉ c.labels := by
    intro c hc x hx hxc
    rw [labels_copyFrom, List.mem_map] at hx
    obtain ⟨y, -, rfl⟩ := hx
    have := lt_freshLabel hxc
    have := hheld c hc
    omega
  rw [enable_eq (hroot.copyFrom n) (isConfiguration_copyFrom n h) hapart, inTurn_eq_revised (isConfiguration_copyFrom n h),
    editFor_copyFrom n h, offLabel?_copyFrom, copyFrom_revised n h.isMapping]

/-- Without a copy a block would be switched on in the configuration as well. -/
example : ((View.mk [.map 0 [(.text "a", .map 1 [(.text "enabled", .bool false)])]]
    (.map 0 [(.text "a", .map 1 [(.text "enabled", .bool false)])])).enable "a" false none false).held =
      [.map 0 [(.text "a", .map 1 [(.text "enabled", .bool true)])]] := by
  decide

end View

end LintPreview
