import LintPreview.Proofs.Outcome
import LintPreview.Rule.Listing

/-!
# What a listing gives

* `read_or_eq_of_rulesOfListing`: the rules of a listing are those of an array of descriptors, or of a table.
* `ids_dropRepeatedIds_nodup`, `dropRepeatedIds_of_nodup`: repeated ids are dropped, and nothing else is.
* `readRuleList_eq_ok_iff`, `readRuleList_eq_error_iff`: when a listing gives rules, and when it fails.
* `ids_nodup_of_readRuleList`: a listing never gives two rules with one id.
-/

namespace LintPreview

theorem mem_of_mem_dropRepeatedIds {r : Rule} {rules : List Rule} (h : r ∈ dropRepeatedIds rules) : r ∈ rules := by
  induction rules with
  | nil => exact h
  | cons s rest ih =>
    rw [dropRepeatedIds, List.mem_cons, List.mem_filter] at h
    rcases h with rfl | ⟨h, -⟩
    · exact List.mem_cons_self
    · exact List.mem_cons_of_mem s (ih h)

theorem ids_dropRepeatedIds_nodup (rules : List Rule) : ((dropRepeatedIds rules).map Rule.id).Nodup := by
  induction rules with
  | nil => exact List.nodup_nil
  | cons r rest ih =>
    rw [dropRepeatedIds, List.map_cons, List.nodup_cons]
    constructor
    · intro hmem
      obtain ⟨s, hs, he⟩ := List.mem_map.mp hmem
      have := (List.mem_filter.mp hs).2
      simp [he] at this
    · exact ih.sublist (List.filter_sublist.map _)

theorem dropRepeatedIds_of_nodup {rules : List Rule} (h : (rules.map Rule.id).Nodup) : dropRepeatedIds rules = rules := by
  induction rules with
  | nil => rfl
  | cons r rest ih =>
    rw [List.map_cons, List.nodup_cons] at h
    have hne : ∀ s ∈ rest, s.id ≠ r.id := fun s hs e => h.1 (e ▸ List.mem_map_of_mem hs)
    rw [dropRepeatedIds, ih h.2, List.filter_eq_self.mpr]
    intro s hs
    simpa using hne s hs

/-! ### Listings -/

/-- The characters of a listing without the blanks around it. -/
abbrev Text.trimmed (output : Text) : List CodePoint := Text.trimChars output.toList

/-- The rules of a listing are those of the descriptors in an array, or of the rows of a table. -/
theorem read_or_eq_of_rulesOfListing {text : List CodePoint} {all : List Rule} (h : rulesOfListing text = .ok all) :
    (∃ items, Json.readChars text = .ok (.list items) ∧ rulesOfDescriptors items = .ok all) ∨
      text.head? ≠ some '[' ∧ all = rulesOfTable text := by
  unfold rulesOfListing at h
  split at h
  · split at h
    · cases h
    · cases h
    · cases h
    · rename_i items hread
      exact .inl ⟨items, hread, eq_ok_of_mapError h⟩
    · cases h
  · rename_i hbracket
    cases h
    exact .inr ⟨hbracket, rfl⟩

/-- A listing gives rules if some can be read off it, each id once. -/
theorem readRuleList_eq_ok_iff {output : Text} {rules : List Rule} : readRuleList output = .ok rules ↔
    ∃ all, rulesOfListing output.trimmed = .ok all ∧ all ≠ [] ∧ rules = dropRepeatedIds all := by
  unfold readRuleList
  cases hall : rulesOfListing output.trimmed with
  | error e =>
    constructor
    · nofun
    · rintro ⟨all, ⟨⟩, -⟩
  | ok all =>
    cases all with
    | nil =>
      constructor
      · nofun
      · rintro ⟨all, ⟨⟩, hne, -⟩
        exact absurd rfl hne
    | cons r rest =>
      constructor
      · rintro ⟨⟩
        exact ⟨_, rfl, List.cons_ne_nil _ _, rfl⟩
      · rintro ⟨all, ⟨⟩, -, rfl⟩
        rfl

/-- A listing fails where its rules cannot be read, or where there are none. -/
theorem readRuleList_eq_error_iff {output : Text} {e : RuleListError} : readRuleList output = .error e ↔
    rulesOfListing output.trimmed = .error e ∨ rulesOfListing output.trimmed = .ok [] ∧ e = .noRules := by
  unfold readRuleList
  cases hall : rulesOfListing output.trimmed with
  | error e' =>
    constructor
    · rintro ⟨⟩
      exact .inl rfl
    · rintro (⟨⟨⟩⟩ | ⟨⟨⟩, -⟩)
      rfl
  | ok all =>
    cases all with
    | nil =>
      constructor
      · rintro ⟨⟩
        exact .inr ⟨rfl, rfl⟩
      · rintro (⟨⟨⟩⟩ | ⟨-, rfl⟩)
        rfl
    | cons r rest =>
      constructor
      · nofun
      · rintro (⟨⟨⟩⟩ | ⟨⟨⟩, -⟩)

theorem ids_nodup_of_readRuleList {output : Text} {rules : List Rule} (h : readRuleList output = .ok rules) :
    (rules.map Rule.id).Nodup := by
  obtain ⟨all, -, -, rfl⟩ := readRuleList_eq_ok_iff.mp h
  exact ids_dropRepeatedIds_nodup all

end LintPreview
