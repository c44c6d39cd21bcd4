import LintPreview.Proofs.Json.Sound
import LintPreview.Proofs.Rule.Elements
import LintPreview.Proofs.Rule.Listing
import LintPreview.Proofs.Text.Pieces

/-!
# What a listing passes over, and what stops it

* `RuleListError.isExpected`: the errors that tell that no rule could be read off a listing.
* `RuleListError.Escapes`: the other errors, each with what in the listing it comes from.
* `readRuleList_ends`: reading a listing gives rules or an expected error, unless one of these escapes; in an array, an
  element that describes no rule and does not stop the listing leaves no trace.
-/

namespace LintPreview

variable {output : Text}

/-! ### Arrays -/

theorem rulesOfListing_of_array {items : List Json} (h : Json.readChars output.trimmed = .ok (.list items)) :
    rulesOfListing output.trimmed = (rulesOfDescriptors items).mapError .descriptor := by
  have hhead : ∀ c ∈ output.trimmed.head?, Text.isBlank c = false := by
    by_cases hnil : output.trimmed = []
    · rw [hnil]
      nofun
    · exact (Text.isTrimmed_trimChars hnil).head
  have hbracket := Json.head?_of_readChars_list hhead h
  unfold rulesOfListing
  split
  · rw [h]
  · exact absurd hbracket ‹_›

/-! ### What stops a listing -/

/-- The errors that tell that no rule could be read off a listing. -/
def RuleListError.isExpected : RuleListError → Bool
  | .malformed _ | .noRules => true
  | .numberTooLong _ | .tooDeep | .descriptor _ => false

/-- The other errors of a trimmed listing, each with what it comes from: a number with too many digits or values nested
too deep in an array, or the first element of the array that is not passed over. -/
inductive RuleListError.Escapes (text : List CodePoint) : RuleListError → Prop where
  | number {digits : ℕ} (array : text.head? = some '[') (read : Json.readChars text = .error (.numberTooLong digits)) :
      Escapes text (.numberTooLong digits)
  | nesting (array : text.head? = some '[') (read : Json.readChars text = .error .tooDeep) : Escapes text .tooDeep
  | element {before after : List Json} {item : Json} {fault : DescriptorFault}
      (read : Json.readChars text = .ok (.list (before ++ item :: after)))
      (passed : ∀ v ∈ before, ∀ f, ¬ v.StopsListing f) (stops : item.StopsListing fault) :
      Escapes text (.descriptor fault)

/-- A listing fails unexpectedly if and only if an error escapes from it. -/
theorem rulesOfListing_eq_error_iff_escapes {e : RuleListError} (he : e.isExpected = false) :
    rulesOfListing output.trimmed = .error e ↔ e.Escapes output.trimmed := by
  constructor
  · intro h
    unfold rulesOfListing at h
    split at h
    · rename_i hhead
      split at h
      · cases h
        cases he
      · cases h
        exact .number hhead ‹_›
      · cases h
        exact .nesting hhead ‹_›
      · rename_i items hread
        cases hrules : rulesOfDescriptors items with
        | error fault =>
          rw [hrules] at h
          cases h
          obtain ⟨before, item, after, rfl, hpassed, hstops⟩ := rulesOfDescriptors_eq_error_iff.mp hrules
          exact .element hread hpassed hstops
        | ok rules =>
          rw [hrules] at h
          cases h
      · cases h
        cases he
    · cases h
  · rintro (⟨hhead, hread⟩ | ⟨hhead, hread⟩ | ⟨hread, hpassed, hstops⟩)
    · unfold rulesOfListing
      split
      · rw [hread]
      · exact absurd hhead ‹_›
    · unfold rulesOfListing
      split
      · rw [hread]
      · exact absurd hhead ‹_›
    · rw [rulesOfListing_of_array hread, rulesOfDescriptors_eq_error_iff.mpr ⟨_, _, _, rfl, hpassed, hstops⟩]
      rfl

/-- An element that describes no rule and does not stop the listing describes nothing. -/
theorem Rule.ofElement?_eq_ok_none {item : Json} (hrule : ∀ r, Rule.ofElement? item ≠ .ok (some r))
    (hstops : ∀ fault, ¬ item.StopsListing fault) : Rule.ofElement? item = .ok none := by
  obtain ⟨found, hfound⟩ := Rule.exists_ofElement?_eq_ok_iff.mpr hstops
  cases found with
  | none => exact hfound
  | some r => exact absurd hfound (hrule r)

/-- Reading a listing gives at least one rule or an expected error, unless one of the errors that are told escapes. In
an array, an element that describes no rule leaves no trace, unless it stops the listing. -/
theorem readRuleList_ends (output : Text) :
    (∀ rules, readRuleList output = .ok rules → rules ≠ []) ∧
    (∀ e, e.isExpected = false → (readRuleList output = .error e ↔ e.Escapes output.trimmed)) ∧
    ∀ before item after, Json.readChars output.trimmed = .ok (.list (before ++ item :: after)) →
      (∀ r, Rule.ofElement? item ≠ .ok (some r)) → (∀ fault, ¬ item.StopsListing fault) →
      ∀ output' : Text, Json.readChars output'.trimmed = .ok (.list (before ++ after)) →
        readRuleList output = readRuleList output' := by
  refine ⟨fun rules h => ?_, fun e he => ?_, fun before item after hread hrule hstops output' hread' => ?_⟩
  · obtain ⟨all, -, hne, rfl⟩ := readRuleList_eq_ok_iff.mp h
    obtain ⟨r, rest, rfl⟩ := List.exists_cons_of_ne_nil hne
    exact List.cons_ne_nil _ _
  · rw [readRuleList_eq_error_iff, ← rulesOfListing_eq_error_iff_escapes he]
    constructor
    · rintro (h | ⟨-, rfl⟩)
      · exact h
      · cases he
    · exact .inl
  · have hnone := Rule.ofElement?_eq_ok_none hrule hstops
    have hrules : rulesOfListing output.trimmed = rulesOfListing output'.trimmed := by
      rw [rulesOfListing_of_array hread, rulesOfListing_of_array hread', rulesOfDescriptors_append_cons hnone]
    unfold readRuleList
    exact congrArg (· >>= _) hrules

/-- An element whose kind is a number stops the listing, which without it has a rule. -/
theorem readRuleList_kindNumber :
    readRuleList "[\x7b\"identifier\":\"a\"\x7d,\x7b\"identifier\":\"b\",\"kind\":5\x7d]" =
      .error (.descriptor (.notText ⟨"int"⟩)) ∧
    (readRuleList "[\x7b\"identifier\":\"a\"\x7d]").isOk = true := by
  decide +kernel

end LintPreview
