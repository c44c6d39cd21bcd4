import LintPreview.Proofs.Overlay.Keys

/-!
# Switching rules on one after the other

A rule can be off in four ways, and `Document.Enables` says that a configuration uses none of them.

* `Document.ChangedAt`: two configurations differ under one list key at most; four of the five steps of
  `Document.enable` change no more than that.
* `Document.SwitchedOn`: what one call of `Document.enable` does to the lists and blocks (`enable_switchedOn`). No list
  that allows a rule loses a text, the list that forbids loses only the rule, and no block is switched off.
* `Document.enableAll`: a chain of calls. Whatever was enabled before or has been switched on by some link of the
  chain is enabled at its end.
-/

namespace LintPreview

namespace Document

/-- Whether the block of a rule switches it off. -/
def isOff (d : Document) (rule : Text) : Bool := (d.block? rule).any isSwitchedOff

/-- A configuration leaves a rule switched on: none of the four ways to switch it off is used. -/
structure Enables (d : Document) (rule : Text) (isOptin : Bool) : Prop where
  notDisabled : rule ∉ d.textsAt .disabled
  amongOnly : d.has ListKey.only.text = true → rule ∈ d.textsAt .only
  optedIn : isOptin = true → rule ∈ d.textsAt .optIn
  notOff : d.isOff rule = false

theorem isEnabled_eq_ok_true_iff {d : Document} (h : d.IsConfiguration) {rule : Text} {isOptin : Bool} :
    d.isEnabled rule isOptin = .ok true ↔ d.Enables rule isOptin := by
  have hmk : d.Enables rule isOptin ↔ rule ∉ d.textsAt .disabled ∧
      (d.has ListKey.only.text = true → rule ∈ d.textsAt .only) ∧
      (isOptin = true → rule ∈ d.textsAt .optIn) ∧ d.isOff rule = false :=
    ⟨fun ⟨h1, h2, h3, h4⟩ => ⟨h1, h2, h3, h4⟩, fun ⟨h1, h2, h3, h4⟩ => ⟨h1, h2, h3, h4⟩⟩
  rw [hmk]
  have hoff : (d.block? rule).any isSwitchedOff = d.isOff rule := rfl
  simp only [isEnabled, h.listedAt_eq, hoff]
  by_cases h1 : rule ∈ d.textsAt .disabled <;> by_cases h2 : d.has ListKey.only.text = true <;>
    by_cases h3 : rule ∈ d.textsAt .only <;> by_cases h4 : rule ∈ d.textsAt .optIn <;>
    cases isOptin <;> cases d.isOff rule <;>
    simp [bind, Except.bind, pure, Except.pure, h1, h2, h3, h4]

/-! ### Changes under one list key -/

/-- `d'` is a mapping that differs from `d` under the list key `key` at most, where texts are listed again. -/
structure ChangedAt (key : ListKey) (d d' : Document) : Prop where
  isMapping : d'.isMapping = true
  listsTexts : isListOfTexts ((d'.get? key.text).getD .null) = true
  elsewhere : ∀ k, k ≠ key.text → d'.get? k = d.get? k

theorem text_ne_of_ne {key key' : ListKey} (h : key' ≠ key) : key'.text ≠ key.text := by
  revert h
  cases key <;> cases key' <;> decide

theorem enabled_ne_text (key : ListKey) : Text.ofString "enabled" ≠ key.text := by
  cases key <;> decide

/-- What may stand under a list key is no block. -/
theorem not_block_of_isListOfTexts {v : Document} (h : isListOfTexts v = true) :
    v.isMapping = false ∧ ∀ l, v ≠ .enclosing l := by
  cases v <;> simp_all [isListOfTexts, Document.isMapping]

theorem isSwitchedOff_eq_false_of_not_mapping {v : Document} (h : v.isMapping = false) : v.isSwitchedOff = false := by
  cases v with
  | map l es => simp [Document.isMapping] at h
  | _ => rfl

theorem isSwitchedOff_eq_of_get?_eq {d d' : Document} (h : d'.get? "enabled" = d.get? "enabled") :
    d'.isSwitchedOff = d.isSwitchedOff := by
  simp only [isSwitchedOff, h]

/-- The list keys are the ids of no rule that has a block. -/
theorem isOff_text_eq_false {d : Document} {key : ListKey}
    (h : isListOfTexts ((d.get? key.text).getD .null) = true) : d.isOff key.text = false := by
  unfold isOff block?
  cases hv : d.get? key.text with
  | none => rfl
  | some v =>
    rw [hv] at h
    obtain ⟨hm, he⟩ := not_block_of_isListOfTexts h
    cases v with
    | enclosing l => exact absurd rfl (he l)
    | _ => exact isSwitchedOff_eq_false_of_not_mapping hm

namespace ChangedAt

variable {key : ListKey} {d d' : Document}

theorem isConfiguration (hc : ChangedAt key d d') (h : d.IsConfiguration) : d'.IsConfiguration := by
  refine ⟨hc.isMapping, fun key' => ?_⟩
  by_cases hk : key' = key
  · subst hk; exact hc.listsTexts
  · rw [hc.elsewhere _ (text_ne_of_ne hk)]; exact h.listsTexts key'

theorem textsAt_of_ne (hc : ChangedAt key d d') {key' : ListKey} (hk : key' ≠ key) :
    d'.textsAt key' = d.textsAt key' :=
  textsAt_of_get?_eq (hc.elsewhere _ (text_ne_of_ne hk))

theorem has_of_ne (hc : ChangedAt key d d') {key' : ListKey} (hk : key' ≠ key) :
    d'.has key'.text = d.has key'.text :=
  has_of_get?_eq (hc.elsewhere _ (text_ne_of_ne hk))

/-- A change under a list key switches no block on or off. -/
theorem isOff_eq (hc : ChangedAt key d d') (h : d.IsConfiguration) (rule : Text) : d'.isOff rule = d.isOff rule := by
  by_cases hr : rule = key.text
  · subst hr
    rw [isOff_text_eq_false hc.listsTexts, isOff_text_eq_false (h.listsTexts key)]
  · have hself : d'.isSwitchedOff = d.isSwitchedOff :=
      isSwitchedOff_eq_of_get?_eq (hc.elsewhere _ (enabled_ne_text key))
    unfold isOff block?
    rw [hc.elsewhere rule hr]
    cases d.get? rule with
    | none => rfl
    | some v => cases v <;> first | exact hself | rfl

theorem refl (h : d.IsConfiguration) : ChangedAt key d d := ⟨h.isMapping, h.listsTexts key, fun _ _ => rfl⟩

theorem put (h : d.IsConfiguration) (l : Nat) (ts : List Text) : ChangedAt key d (d.put key.text (ofTexts l ts)) := by
  refine ⟨by rw [isMapping_put]; exact h.isMapping, ?_, fun k hk => get?_put_of_ne hk d _⟩
  rw [get?_put_self h.isMapping]
  exact isListOfTexts_ofTexts l ts

theorem erase (h : d.IsConfiguration) : ChangedAt key d (d.erase key.text) := by
  refine ⟨by rw [isMapping_erase]; exact h.isMapping, ?_, fun k hk => get?_erase_of_ne hk d⟩
  rw [get?_erase_self]
  rfl

end ChangedAt

/-! ### The steps -/

section Steps

variable {d : Document} (h : d.IsConfiguration) (rule : Text) (label : Nat)
include h

theorem textsAt_put (key : ListKey) (ts : List Text) : (d.put key.text (ofTexts label ts)).textsAt key = ts :=
  textsAt_of_get?_ofTexts (get?_put_self h.isMapping _ _)

theorem dropDisabled_spec : ∃ d', d.dropDisabled rule label = .ok d' ∧ ChangedAt .disabled d d' ∧
    d'.textsAt .disabled = (d.textsAt .disabled).filter (· ≠ rule) := by
  unfold dropDisabled
  by_cases hk : d.has ListKey.disabled.text = true
  · simp only [hk, if_true, h.listedAt_eq, bind, Except.bind]
    cases hl : (d.textsAt .disabled).filter (· ≠ rule) with
    | nil => exact ⟨_, rfl, .erase h, textsAt_of_get?_none (get?_erase_self d _)⟩
    | cons t ts => exact ⟨_, rfl, .put h _ _, textsAt_put h _ _ _⟩
  · have hn : d.get? ListKey.disabled.text = none := by simpa [has] using hk
    rw [if_neg hk]
    exact ⟨_, rfl, .refl h, by rw [textsAt_of_get?_none hn]; rfl⟩

theorem addOptIn_spec (isOptin : Bool) : ∃ d', d.addOptIn rule isOptin label = .ok d' ∧ ChangedAt .optIn d d' ∧
    d'.textsAt .optIn = if isOptin then withItem rule (d.textsAt .optIn) else d.textsAt .optIn := by
  unfold addOptIn
  cases isOptin with
  | true =>
    simp only [if_true, h.listedAt_eq, bind, Except.bind]
    exact ⟨_, rfl, .put h _ _, textsAt_put h _ _ _⟩
  | false => exact ⟨_, rfl, .refl h, rfl⟩

theorem addOnly_spec : ∃ d', d.addOnly rule label = .ok d' ∧ ChangedAt .only d d' ∧
    d'.has ListKey.only.text = d.has ListKey.only.text ∧
    d'.textsAt .only = if d.has ListKey.only.text then withItem rule (d.textsAt .only) else d.textsAt .only := by
  unfold addOnly
  by_cases hk : d.has ListKey.only.text = true
  · simp only [hk, if_true, h.listedAt_eq, bind, Except.bind]
    refine ⟨_, rfl, .put h _ _, ?_, textsAt_put h _ _ _⟩
    simp [has, get?_put_self h.isMapping]
  · rw [if_neg hk]
    exact ⟨_, rfl, .refl h, rfl, by rw [if_neg hk]⟩

theorem addExclusions_spec (workspace : Option Text) : ∃ d', d.addExclusions workspace label = .ok d' ∧
    ChangedAt .excluded d d' ∧
    d'.textsAt .excluded = (mergeExclusions (d.textsAt .excluded)).map (anchorExclusion workspace) := by
  simp only [addExclusions, h.listedAt_eq, bind, Except.bind]
  exact ⟨_, rfl, .put h _ _, textsAt_put h _ _ _⟩

end Steps

/-! ### Switching blocks on -/

theorem isSwitchedOff_iff {d : Document} : d.isSwitchedOff = true ↔ d.get? "enabled" = some (.bool false) := by
  unfold isSwitchedOff
  split
  · simpa using ‹_›
  · simpa using ‹_›

theorem switchOn_of_isListOfTexts {v : Document} (h : isListOfTexts v = true) (l : Nat) : v.switchOn l = v := by
  cases v with
  | list l' items =>
    simp only [isListOfTexts] at h
    have : switchOnItems l items = items := by
      induction items with
      | nil => rfl
      | cons i rest ih =>
        simp only [List.all_cons, Bool.and_eq_true] at h
        have hi : i.switchOn l = i := by cases i <;> first | rfl | simp [isText] at h
        rw [switchOnItems, hi, ih h.2]
    rw [switchOn, this]
  | map l' es => simp [isListOfTexts] at h
  | _ => rfl

theorem eq_bool_of_switchOn {l : Nat} {v : Document} {b : Bool} (h : v.switchOn l = .bool b) : v = .bool b := by
  cases v <;> simp_all [switchOn]

/-- A mapping that is switched off after some mapping has been switched on was off before, and is another one. -/
theorem isSwitchedOff_of_switchOn {l : Nat} {v : Document} (h : (v.switchOn l).isSwitchedOff = true) :
    v.isSwitchedOff = true ∧ ∀ es, v ≠ .map l es := by
  rw [isSwitchedOff_iff] at h ⊢
  have hne : ∀ es, v ≠ .map l es := by
    rintro es rfl
    rw [get?_enabled_switchOn_self] at h
    cases h
  rw [get?_switchOn (.inr hne)] at h
  obtain ⟨w, hw, hb⟩ := Option.map_eq_some_iff.1 h
  rw [eq_bool_of_switchOn hb] at hw
  exact ⟨hw, hne⟩

theorem get?_text_switchOn {d : Document} (h : d.IsConfiguration) (l : Nat) (key : ListKey) :
    (d.switchOn l).get? key.text = d.get? key.text := by
  rw [get?_switchOn (.inl (enabled_ne_text key).symm)]
  cases hv : d.get? key.text with
  | none => rfl
  | some v =>
    have : isListOfTexts v = true := by simpa [hv] using h.listsTexts key
    rw [Option.map_some, switchOn_of_isListOfTexts this]

theorem isConfiguration_switchOn {d : Document} (h : d.IsConfiguration) (l : Nat) :
    (d.switchOn l).IsConfiguration := by
  refine ⟨by rw [isMapping_switchOn]; exact h.isMapping, fun key => ?_⟩
  rw [get?_text_switchOn h]
  exact h.listsTexts key

/-- The blocks stay where they are when a mapping is switched on. An alias of the whole configuration stays one. -/
theorem block?_switchOn {k : Text} {l : Nat} {d : Document} (h : k ≠ "enabled" ∨ ∀ es, d ≠ .map l es) :
    (d.switchOn l).block? k = (d.block? k).map (switchOn l) := by
  unfold block?
  rw [get?_switchOn h]
  cases d.get? k with
  | none => rfl
  | some v => cases v <;> rfl

/-- A rule that is off after a mapping has been switched on was off before, and its block is another mapping. -/
theorem isOff_of_isOff_switchOn {d : Document} {l : Nat} {rule : Text} (h : (d.switchOn l).isOff rule = true) :
    d.isOff rule = true ∧ ∀ es, d.block? rule ≠ some (.map l es) := by
  by_cases hflag : rule ≠ "enabled" ∨ ∀ es, d ≠ .map l es
  · unfold isOff at h ⊢
    rw [block?_switchOn hflag] at h
    cases hb : d.block? rule with
    | none => simp [hb] at h
    | some v =>
      obtain ⟨hoff, hne⟩ := isSwitchedOff_of_switchOn (by simpa [hb] using h)
      exact ⟨by simpa using hoff, fun es he => hne es (Option.some.inj he)⟩
  · -- what stands under "enabled" in a mapping that has been switched on is a truth value, no block
    obtain ⟨hk, hd⟩ := not_or.1 hflag
    obtain ⟨es, he⟩ := Classical.not_forall.1 hd
    obtain rfl := Classical.not_not.1 hk
    obtain rfl := Classical.not_not.1 he
    unfold isOff block? at h
    rw [get?_enabled_switchOn_self] at h
    cases h

/-- Switching the block of a rule on switches the mapping on that switches the rule off. Without one, nothing changes. -/
theorem switchBlockOn_cases (d : Document) (rule : Text) :
    (∃ l es, d.block? rule = some (.map l es) ∧ (Document.map l es).isSwitchedOff = true ∧
      d.switchBlockOn rule = d.switchOn l) ∨
    d.isOff rule = false ∧ d.switchBlockOn rule = d := by
  unfold switchBlockOn isOff
  split
  · rename_i l es hb
    split
    · rename_i hoff
      exact .inl ⟨l, es, hb, hoff, rfl⟩
    · rename_i hon
      exact .inr ⟨by simpa [hb] using hon, rfl⟩
  · rename_i hb
    refine .inr ⟨?_, rfl⟩
    cases hv : d.block? rule with
    | none => rfl
    | some v =>
      cases v with
      | map l es => exact absurd hv (hb l es)
      | _ => rfl

theorem switchBlockOn_spec {d : Document} (h : d.IsConfiguration) (rule : Text) :
    (d.switchBlockOn rule).IsConfiguration ∧
    (∀ key : ListKey, (d.switchBlockOn rule).get? key.text = d.get? key.text) ∧
    (∀ r, (d.switchBlockOn rule).isOff r = true → d.isOff r = true) ∧
    (d.switchBlockOn rule).isOff rule = false := by
  rcases switchBlockOn_cases d rule with ⟨l, es, hb, -, hswitched⟩ | ⟨hon, hkept⟩
  · rw [hswitched]
    refine ⟨isConfiguration_switchOn h l, get?_text_switchOn h l, fun r hr => (isOff_of_isOff_switchOn hr).1, ?_⟩
    rw [Bool.eq_false_iff]
    exact fun hoff => (isOff_of_isOff_switchOn hoff).2 es hb
  · rw [hkept]
    exact ⟨h, fun _ => rfl, fun _ => id, hon⟩

/-! ### One rule -/

/-- `d'` is `d` with a rule switched on, as far as the four ways to switch rules off are concerned. -/
structure SwitchedOn (rule : Text) (isOptin : Bool) (d d' : Document) : Prop where
  isConfiguration : d'.IsConfiguration
  disabled : d'.textsAt .disabled = (d.textsAt .disabled).filter (· ≠ rule)
  optIn : d'.textsAt .optIn = if isOptin then withItem rule (d.textsAt .optIn) else d.textsAt .optIn
  hasOnly : d'.has ListKey.only.text = d.has ListKey.only.text
  only : d'.textsAt .only = if d.has ListKey.only.text then withItem rule (d.textsAt .only) else d.textsAt .only
  isOff_of_isOff : ∀ r, d'.isOff r = true → d.isOff r = true
  isOn : d'.isOff rule = false

theorem enable_switchedOn {d : Document} (h : d.IsConfiguration) (rule : Text) (isOptin : Bool)
    (workspace : Option Text) (exclude : Bool) :
    ∃ d', d.enable rule isOptin workspace exclude = .ok d' ∧ SwitchedOn rule isOptin d d' := by
  obtain ⟨d1, e1, c1, t1⟩ := dropDisabled_spec h rule d.freshLabel
  have h1 := c1.isConfiguration h
  obtain ⟨d2, e2, c2, t2⟩ := addOptIn_spec h1 rule (d.freshLabel + 1) isOptin
  have h2 := c2.isConfiguration h1
  obtain ⟨d3, e3, c3, has3, t3⟩ := addOnly_spec h2 rule (d.freshLabel + 2)
  have h3 := c3.isConfiguration h2
  obtain ⟨h4, get4, off4, on4⟩ := switchBlockOn_spec h3 rule
  have hhas : d2.has ListKey.only.text = d.has ListKey.only.text := by
    rw [c2.has_of_ne (by decide), c1.has_of_ne (by decide)]
  have off3 : ∀ r, d3.isOff r = d.isOff r := fun r => by
    rw [c3.isOff_eq h2, c2.isOff_eq h1, c1.isOff_eq h]
  have key4 : SwitchedOn rule isOptin d (d3.switchBlockOn rule) := by
    refine ⟨h4, ?_, ?_, ?_, ?_, fun r hr => off3 r ▸ off4 r hr, on4⟩
    · rw [textsAt_of_get?_eq (get4 _), c3.textsAt_of_ne (by decide), c2.textsAt_of_ne (by decide), t1]
    · rw [textsAt_of_get?_eq (get4 _), c3.textsAt_of_ne (by decide), t2, c1.textsAt_of_ne (by decide)]
    · rw [has_of_get?_eq (get4 _), has3, hhas]
    · rw [textsAt_of_get?_eq (get4 _), t3, hhas, c2.textsAt_of_ne (by decide), c1.textsAt_of_ne (by decide)]
  cases exclude with
  | false => exact ⟨_, by simp [enable, e1, e2, e3, bind, Except.bind, pure, Except.pure], key4⟩
  | true =>
    obtain ⟨d5, e5, c5, -⟩ := addExclusions_spec h4 (d.freshLabel + 3) workspace
    refine ⟨d5, by simp [enable, e1, e2, e3, e5, bind, Except.bind], c5.isConfiguration h4, ?_, ?_, ?_, ?_, ?_, ?_⟩
    · rw [c5.textsAt_of_ne (by decide), key4.disabled]
    · rw [c5.textsAt_of_ne (by decide), key4.optIn]
    · rw [c5.has_of_ne (by decide), key4.hasOnly]
    · rw [c5.textsAt_of_ne (by decide), key4.only]
    · intro r hr
      exact key4.isOff_of_isOff r (by rwa [c5.isOff_eq h4] at hr)
    · rw [c5.isOff_eq h4, key4.isOn]

theorem mem_withItem_self (t : Text) (ts : List Text) : t ∈ withItem t ts := by
  unfold withItem
  split
  · exact List.contains_iff_mem.1 ‹_›
  · simp

theorem mem_withItem_of_mem {t : Text} {ts : List Text} (h : t ∈ ts) (item : Text) : t ∈ withItem item ts := by
  unfold withItem
  split
  · exact h
  · simp [h]

namespace SwitchedOn

variable {rule : Text} {isOptin : Bool} {d d' : Document}

/-- The rule that is switched on is enabled. -/
theorem enables_self (h : SwitchedOn rule isOptin d d') : d'.Enables rule isOptin where
  notDisabled := by simp [h.disabled]
  amongOnly hk := by
    rw [h.hasOnly] at hk
    rw [h.only, if_pos hk]
    exact mem_withItem_self rule _
  optedIn ho := by
    rw [h.optIn, if_pos ho]
    exact mem_withItem_self rule _
  notOff := h.isOn

/-- A rule that is enabled stays enabled when another one, or the same, is switched on. -/
theorem enables_of_enables (h : SwitchedOn rule isOptin d d') {r : Text} {o : Bool} (he : d.Enables r o) :
    d'.Enables r o where
  notDisabled := by
    rw [h.disabled]
    exact fun hm => he.notDisabled ((List.mem_filter.1 hm).1)
  amongOnly hk := by
    rw [h.hasOnly] at hk
    rw [h.only, if_pos hk]
    exact mem_withItem_of_mem (he.amongOnly hk) rule
  optedIn ho := by
    rw [h.optIn]
    split
    · exact mem_withItem_of_mem (he.optedIn ho) rule
    · exact he.optedIn ho
  notOff := by
    rw [Bool.eq_false_iff]
    intro hoff
    have := h.isOff_of_isOff r hoff
    rw [he.notOff] at this
    cases this

end SwitchedOn

/-! ### A chain of rules -/

/-- One link of a chain: a rule to be switched on, and where and how that is done. -/
structure EnableStep where
  rule : Text
  isOptin : Bool := false
  workspace : Option Text := none
  exclude : Bool := true
deriving DecidableEq, Repr

/-- The configuration with rules switched on one after the other, each in the result of the one before. -/
def enableAll (d : Document) (steps : List EnableStep) : Except NotListed Document :=
  steps.foldlM (fun d s => d.enable s.rule s.isOptin s.workspace s.exclude) d

/-- The invariant of a chain: whatever a configuration enables at some point is enabled at the end. -/
theorem exists_enableAll {d : Document} (h : d.IsConfiguration) (steps : List EnableStep) :
    ∃ d', d.enableAll steps = .ok d' ∧ d'.IsConfiguration ∧ (∀ s ∈ steps, d'.Enables s.rule s.isOptin) ∧
      ∀ r o, d.Enables r o → d'.Enables r o := by
  induction steps generalizing d with
  | nil => exact ⟨d, rfl, h, by simp, fun _ _ he => he⟩
  | cons s steps ih =>
    obtain ⟨d1, e1, s1⟩ := enable_switchedOn h s.rule s.isOptin s.workspace s.exclude
    obtain ⟨d', e', h', hsteps, hkept⟩ := ih s1.isConfiguration
    refine ⟨d', ?_, h', ?_, fun r o he => hkept r o (s1.enables_of_enables he)⟩
    · rw [enableAll, List.foldlM_cons, e1]
      exact e'
    · intro t ht
      rcases List.mem_cons.1 ht with rfl | ht
      · exact hkept _ _ s1.enables_self
      · exact hsteps t ht

/-- A tree of files that holds a single one. -/
def oneFile (name content : Text) : FileTree :=
  ({} : FileTree).plant (Path.ofString name) (.file ((Text.encode content).toOption.getD []) false)

/-- A file in which two rules share a block that switches them off. -/
def sharedBlockFile : FileTree :=
  oneFile "b.yml" "disabled_rules: [a, b]\nonly_rules: c\nb: &x \x7benabled: false\x7d\nd: *x\n"

/-- What that file holds. The label of the shared block stands in both places. -/
def sharedBlock : Document := .map 0 [
  (.text "disabled_rules", .list 2 [.text "a", .text "b"]),
  (.text "only_rules", .text "c"),
  (.text "b", .map 8 [(.text "enabled", .bool false)]),
  (.text "d", .map 8 [(.text "enabled", .bool false)])]

end Document

end LintPreview
