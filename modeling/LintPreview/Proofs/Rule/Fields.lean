import LintPreview.Proofs.Rule.Descriptor
import LintPreview.Proofs.Rule.Elements

/-!
# The fields of a rule

* `RuleField`: the fields of a rule, with the keys of a descriptor that supply them.
* `RuleField.isFilledIn_of_supplies`: what a descriptor supplies is there when details are asked for.
-/

namespace LintPreview

/-- The fields of a rule. -/
inductive RuleField where
  | id
  | name
  | description
  | category
  | isOptin
  | defaultSeverity
  | parameters
  | triggeringExamples
  | nonTriggeringExamples
  | documentationUrl
  | supportsAutocorrection
  | minimumToolVersion
deriving DecidableEq

namespace RuleField

/-- The keys of a descriptor that supply a field. -/
def keys : RuleField → List Text
  | .id => ["identifier", "id"]
  | .name => ["name"]
  | .description => ["description"]
  | .category => ["kind", "category"]
  | .isOptin => ["opt_in", "is_opt_in"]
  | .defaultSeverity => ["default_severity"]
  | .parameters => ["parameters"]
  | .triggeringExamples => ["triggering_examples"]
  | .nonTriggeringExamples => ["nontriggering_examples", "non_triggering_examples"]
  | .documentationUrl => ["documentation"]
  | .supportsAutocorrection => ["correctable"]
  | .minimumToolVersion => ["minimum_swift_version"]

/-- Two rules have the same in a field. -/
def Agrees : RuleField → Rule → Rule → Prop
  | .id, r, r' => r'.id = r.id
  | .name, r, r' => r'.name = r.name
  | .description, r, r' => r'.description = r.description
  | .category, r, r' => r'.category = r.category
  | .isOptin, r, r' => r'.isOptin = r.isOptin
  | .defaultSeverity, r, r' => r'.defaultSeverity = r.defaultSeverity
  | .parameters, r, r' => r'.parameters = r.parameters
  | .triggeringExamples, r, r' => r'.triggeringExamples = r.triggeringExamples
  | .nonTriggeringExamples, r, r' => r'.nonTriggeringExamples = r.nonTriggeringExamples
  | .documentationUrl, r, r' => r'.documentationUrl = r.documentationUrl
  | .supportsAutocorrection, r, r' => r'.supportsAutocorrection = r.supportsAutocorrection
  | .minimumToolVersion, r, r' => r'.minimumToolVersion = r.minimumToolVersion

/-- A descriptor supplies a field: there is something under one of its keys. -/
def IsSuppliedBy (f : RuleField) (item : Json) : Prop := ∃ key ∈ f.keys, (item.field key).isTruthy = true

/-- A rule has something in a field that details can fill in. -/
def IsFilledIn : RuleField → Rule → Prop
  | .description, r => r.description.isEmpty = false
  | .triggeringExamples, r => r.triggeringExamples.isEmpty = false
  | .nonTriggeringExamples, r => r.nonTriggeringExamples.isEmpty = false
  | _, _ => True

theorem Agrees.refl (f : RuleField) (r : Rule) : f.Agrees r r := by
  cases f <;> rfl

end RuleField

/-! ### Descriptors -/

/-- What lists something that is given lists at least one text. -/
theorem Json.isEmpty_of_listedTexts? {v : Json} {texts : List Text} (hv : v.isTruthy = true)
    (h : v.listedTexts? = some texts) : texts.isEmpty = false := by
  rw [listedTexts?, if_pos hv] at h
  obtain ⟨items, hitems, htexts⟩ := Option.bind_eq_some_iff.mp h
  have hne : items ≠ [] := by
    rintro rfl
    cases v with
    | list items =>
      cases hitems
      cases hv
    | text s =>
      have hs := List.map_eq_nil_iff.mp (Option.some.inj hitems)
      rw [isTruthy, Bool.not_eq_true'] at hv
      exact absurd hs (List.isEmpty_eq_false_iff.mp hv)
    | object entries =>
      have hentries := List.map_eq_nil_iff.mp (Option.some.inj hitems)
      rw [isTruthy, hentries] at hv
      cases hv
    | _ => cases hitems
  obtain ⟨item, items, rfl⟩ := List.exists_cons_of_ne_nil hne
  rw [List.mapM_cons] at htexts
  obtain ⟨text, -, htexts⟩ := Option.bind_eq_some_iff.mp htexts
  obtain ⟨more, -, htexts⟩ := Option.bind_eq_some_iff.mp htexts
  cases htexts
  rfl

theorem Json.isTruthy_orElse {v w : Json} (h : v.isTruthy = true ∨ w.isTruthy = true) :
    (v.orElse w).isTruthy = true := by
  unfold orElse
  split
  · assumption
  · exact h.resolve_left ‹_›

/-- The description and the examples that a descriptor supplies are in its rule. -/
structure Rule.IsDescribedBy (item : Json) (r : Rule) : Prop where
  description : (item.field "description").isTruthy = true → r.description.isEmpty = false
  triggering : (item.field "triggering_examples").isTruthy = true → r.triggeringExamples.isEmpty = false
  nonTriggering : ((item.field "nontriggering_examples").orElse (item.field "non_triggering_examples")).isTruthy = true →
    r.nonTriggeringExamples.isEmpty = false

theorem Rule.isDescribedBy_of_ofDescriptor (item : Json) : (Rule.ofDescriptor item).Gives (Rule.IsDescribedBy item) := by
  intro r h
  have hread := Rule.isReadOff_of_ofDescriptor item r h
  refine ⟨fun hgiven => ?_, fun hgiven => Json.isEmpty_of_listedTexts? hgiven hread.triggering,
    fun hgiven => Json.isEmpty_of_listedTexts? hgiven hread.nonTriggering⟩
  have hdescription := hread.description
  rw [if_pos hgiven, Json.asText?_eq_some_iff] at hdescription
  rw [hdescription] at hgiven
  simpa [Json.isTruthy] using hgiven

/-- What a descriptor supplies is in the rule that is read off it. -/
theorem RuleField.isFilledIn_of_supplies {f : RuleField} {item : Json} {r : Rule}
    (hread : Rule.ofElement? item = .ok (some r)) (h : f.IsSuppliedBy item) : f.IsFilledIn r := by
  have hdescribed : Rule.IsDescribedBy item r := by
    cases item with
    | object entries => exact Rule.isDescribedBy_of_ofDescriptor _ r hread
    | _ => cases hread
  obtain ⟨key, hkey, hgiven⟩ := h
  cases f with
  | description =>
    rw [List.mem_singleton.mp hkey] at hgiven
    exact hdescribed.description hgiven
  | triggeringExamples =>
    rw [List.mem_singleton.mp hkey] at hgiven
    exact hdescribed.triggering hgiven
  | nonTriggeringExamples =>
    apply hdescribed.nonTriggering
    apply Json.isTruthy_orElse
    rcases List.mem_cons.mp hkey with rfl | hkey
    · exact .inl hgiven
    · rw [List.mem_singleton.mp hkey] at hgiven
      exact .inr hgiven
  | _ => trivial

end LintPreview
