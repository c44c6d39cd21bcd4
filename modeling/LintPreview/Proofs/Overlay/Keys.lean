import LintPreview.Baseline

/-!
# The entries of a configuration

* `Document.get?` after `Document.put`, `Document.erase` and `Document.switchOn`: only the named key changes, and
  switching a mapping on reaches every place that holds it.
* `Document.IsConfiguration`: a mapping with texts, a list of texts or nothing under each list key; what
  `readBaseline` accepts is one (`isConfiguration_of_readBaseline`).
* `Document.textsAt`: the texts under a list key.
-/

namespace LintPreview

namespace Document

/-! ### Keys -/

theorem sameKey_text_iff {k : Document} {s : Text} : k.sameKey (.text s) = true ↔ k = .text s := by
  cases k with
  | float x => simp only [sameKey, keyNumber?]; cases x.toInt? <;> simp
  | _ => simp [sameKey, keyNumber?]

theorem getKey?_putKey_self (key : Text) (v : Document) (es : List (Document × Document)) :
    getKey? key (putKey (.text key) v es) = some v := by
  induction es with
  | nil => simp [putKey, getKey?, sameKey_text_iff]
  | cons e es ih =>
    obtain ⟨k, w⟩ := e
    by_cases h : k = .text key <;> simp [putKey, getKey?, sameKey_text_iff, h, ih]

theorem getKey?_putKey_of_ne {key k : Text} (h : k ≠ key) (v : Document) (es : List (Document × Document)) :
    getKey? k (putKey (.text key) v es) = getKey? k es := by
  induction es with
  | nil => simp [putKey, getKey?, sameKey_text_iff, h.symm]
  | cons e es ih =>
    obtain ⟨k', w⟩ := e
    by_cases h1 : k' = .text key
    · have : Document.text key ≠ .text k := by simpa using h.symm
      simp [putKey, getKey?, sameKey_text_iff, h1, this]
    · by_cases h2 : k' = .text k <;> simp [putKey, getKey?, sameKey_text_iff, h1, h2, h, ih]

theorem getKey?_eraseKey_self (key : Text) (es : List (Document × Document)) :
    getKey? key (eraseKey key es) = none := by
  induction es with
  | nil => rfl
  | cons e es ih =>
    unfold eraseKey at ih ⊢
    by_cases h : e.1.sameKey (.text key) = true <;> simp [getKey?, h, ih]

theorem getKey?_eraseKey_of_ne {key k : Text} (h : k ≠ key) (es : List (Document × Document)) :
    getKey? k (eraseKey key es) = getKey? k es := by
  induction es with
  | nil => rfl
  | cons e es ih =>
    unfold eraseKey at ih ⊢
    obtain ⟨k', w⟩ := e
    by_cases h1 : k' = .text key
    · have : Document.text key ≠ .text k := by simpa using h.symm
      simp [getKey?, sameKey_text_iff, h1, this, ih]
    · have hs : k'.sameKey (.text key) = false := by
        rw [Bool.eq_false_iff]
        exact fun hk => h1 (sameKey_text_iff.1 hk)
      simp [getKey?, sameKey_text_iff, hs, ih]

theorem getKey?_switchOnEntries (l : Nat) (k : Text) (es : List (Document × Document)) :
    getKey? k (switchOnEntries l es) = (getKey? k es).map (switchOn l) := by
  induction es with
  | nil => rfl
  | cons e es ih =>
    obtain ⟨k', w⟩ := e
    by_cases h : k' = .text k <;> simp [switchOnEntries, getKey?, sameKey_text_iff, h, ih]

/-! ### Mappings -/

/-- Whether a value is a mapping. -/
def isMapping : Document → Bool
  | .map .. => true
  | _ => false

theorem isMapping_put (d : Document) (key : Text) (v : Document) : (d.put key v).isMapping = d.isMapping := by
  cases d <;> rfl

theorem isMapping_erase (d : Document) (key : Text) : (d.erase key).isMapping = d.isMapping := by
  cases d <;> rfl

theorem isMapping_switchOn (l : Nat) (d : Document) : (d.switchOn l).isMapping = d.isMapping := by
  cases d <;> simp [switchOn, isMapping]

theorem get?_put_self {d : Document} (h : d.isMapping = true) (key : Text) (v : Document) :
    (d.put key v).get? key = some v := by
  cases d with
  | map l es => exact getKey?_putKey_self key v es
  | _ => simp [isMapping] at h

theorem get?_put_of_ne {key k : Text} (h : k ≠ key) (d v : Document) : (d.put key v).get? k = d.get? k := by
  cases d with
  | map l es => exact getKey?_putKey_of_ne h v es
  | _ => rfl

theorem get?_erase_self (d : Document) (key : Text) : (d.erase key).get? key = none := by
  cases d with
  | map l es => exact getKey?_eraseKey_self key es
  | _ => rfl

theorem get?_erase_of_ne {key k : Text} (h : k ≠ key) (d : Document) : (d.erase key).get? k = d.get? k := by
  cases d with
  | map l es => exact getKey?_eraseKey_of_ne h es
  | _ => rfl

/-- When a mapping is switched on, every entry stays where it is, with the mapping switched on inside it. The only
exception is the flag of the mapping itself. -/
theorem get?_switchOn {k : Text} {l : Nat} {d : Document} (h : k ≠ "enabled" ∨ ∀ es, d ≠ .map l es) :
    (d.switchOn l).get? k = (d.get? k).map (switchOn l) := by
  cases d with
  | map l' es =>
    simp only [switchOn, get?, entries]
    split
    · rename_i hl
      have hk : k ≠ "enabled" := h.resolve_right fun hne => hne es (by rw [hl])
      rw [getKey?_putKey_of_ne hk, getKey?_switchOnEntries]
    · exact getKey?_switchOnEntries l k es
  | _ => rfl

theorem get?_enabled_switchOn_self (l : Nat) (es : List (Document × Document)) :
    ((Document.map l es).switchOn l).get? "enabled" = some (.bool true) := by
  simp only [switchOn, get?, entries, if_true]
  exact getKey?_putKey_self _ _ _

/-! ### Configurations -/

/-- The texts that are listed under a key. -/
def textsAt (d : Document) (key : ListKey) : List Text := (d.listedAt key).toOption.getD []

/-- A mapping in which null, a text or a list of texts stands under every list key. -/
structure IsConfiguration (d : Document) : Prop where
  isMapping : d.isMapping = true
  listsTexts : ∀ key : ListKey, isListOfTexts ((d.get? key.text).getD .null) = true

/-- What may stand under a list key does list texts. -/
theorem exists_listed_of_isListOfTexts {v : Document} (h : isListOfTexts v = true) : ∃ ts, v.listed = .ok ts := by
  cases v with
  | null => exact ⟨[], rfl⟩
  | text s => exact ⟨[s], rfl⟩
  | list l items => exact ⟨items.map display, rfl⟩
  | _ => simp [isListOfTexts] at h

theorem IsConfiguration.listedAt_eq {d : Document} (h : d.IsConfiguration) (key : ListKey) :
    d.listedAt key = .ok (d.textsAt key) := by
  obtain ⟨ts, hts⟩ := exists_listed_of_isListOfTexts (h.listsTexts key)
  have : d.listedAt key = .ok ts := hts
  simp [textsAt, this, Except.toOption]

theorem textsAt_of_get?_eq {d d' : Document} {key : ListKey} (h : d'.get? key.text = d.get? key.text) :
    d'.textsAt key = d.textsAt key := by
  simp only [textsAt, listedAt, h]

theorem has_of_get?_eq {d d' : Document} {k : Text} (h : d'.get? k = d.get? k) : d'.has k = d.has k := by
  simp only [has, h]

theorem textsAt_of_get?_none {d : Document} {key : ListKey} (h : d.get? key.text = none) : d.textsAt key = [] := by
  simp [textsAt, listedAt, h, listed, Except.toOption]

theorem textsAt_of_get?_ofTexts {d : Document} {key : ListKey} {l : Nat} {ts : List Text}
    (h : d.get? key.text = some (ofTexts l ts)) : d.textsAt key = ts := by
  have hd : (display ∘ Document.text) = id := rfl
  simp [textsAt, listedAt, h, ofTexts, listed, Except.toOption, hd]

theorem isListOfTexts_ofTexts (l : Nat) (ts : List Text) : isListOfTexts (ofTexts l ts) = true := by
  simp [ofTexts, isListOfTexts, isText]

theorem emptyConfiguration_isConfiguration : emptyConfiguration.IsConfiguration :=
  ⟨rfl, fun _ => rfl⟩

theorem isConfiguration_of_firstBadKey? {l : Nat} {es : List (Document × Document)}
    (h : firstBadKey? (.map l es) = none) : (Document.map l es).IsConfiguration := by
  refine ⟨rfl, fun key => ?_⟩
  have := List.find?_eq_none.mp h key (by cases key <;> simp [ListKey.all])
  simpa using this

/-- What is read as a baseline is the empty configuration, or a mapping in a text whose list keys are in order. -/
theorem eq_or_exists_of_baselineOfRead {path : Path} {read : Except PathFault (List UInt8)} {d : Document}
    (h : baselineOfRead path read = .ok d) : d = emptyConfiguration ∨
      ∃ cs l es, d = .map l es ∧ Document.ofYaml cs = .ok (.map l es) ∧ firstBadKey? (.map l es) = none := by
  unfold baselineOfRead at h
  split at h
  · cases h
  · cases h
  · split at h
    · cases h
    · rename_i cs hcs
      unfold baselineOfText at h
      split at h
      · cases h
      · cases h
      · cases h
        exact .inl rfl
      · rename_i l es hyaml
        split at h
        · cases h
        · rename_i hkeys
          cases h
          exact .inr ⟨cs, l, es, rfl, hyaml, hkeys⟩
      · cases h

theorem isConfiguration_of_baselineOfRead {path : Path} {read : Except PathFault (List UInt8)} {d : Document}
    (h : baselineOfRead path read = .ok d) : d.IsConfiguration := by
  rcases eq_or_exists_of_baselineOfRead h with rfl | ⟨cs, l, es, rfl, -, hkeys⟩
  · exact emptyConfiguration_isConfiguration
  · exact isConfiguration_of_firstBadKey? hkeys

/-- Every baseline is a configuration. -/
theorem isConfiguration_of_readBaseline {t : FileTree} {path : Option Path} {d : Document}
    (h : readBaseline t path = .ok d) : d.IsConfiguration := by
  cases path with
  | none => cases h; exact emptyConfiguration_isConfiguration
  | some p => exact isConfiguration_of_baselineOfRead h

end Document

end LintPreview
