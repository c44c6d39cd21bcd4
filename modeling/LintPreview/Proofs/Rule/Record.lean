import LintPreview.Proofs.Json.Sound
import LintPreview.Proofs.Json.Written
import LintPreview.Rule.Record
import LintPreview.Schema.Checked

/-!
# Rules as records

* `Rule.asWritten`: the rule that the record of a rule reads as. Only default values can differ.
* `Rule.check_toJson`: the record of a rule is read as this rule.
* `Rule.IsSound`: the default values of a rule are as they are read from a text. So is its record then
  (`Rule.isSound_toJson`).
* `Rule.IsReadable`: the default values of a rule are not nested too deep and hold no whole number that is too long.
-/

namespace LintPreview

/-- The parameter that its record reads as. -/
def Parameter.asWritten (p : Parameter) : Parameter := { p with defaultValue := p.defaultValue.asWritten }

/-- The rule that its record reads as. -/
def Rule.asWritten (r : Rule) : Rule := { r with parameters := r.parameters.map (·.map Parameter.asWritten) }

/-! ### Members -/

theorem Checked.itemsFrom_map {α β : Type} {check : Json → Checked β} {f : α → Json} {g : α → β} (as : List α)
    (h : ∀ a ∈ as, check (f a) = .valid (g a)) (n : ℕ) : Checked.itemsFrom check n (as.map f) = .valid (as.map g) := by
  induction as generalizing n with
  | nil => rfl
  | cons a as ih =>
    rw [List.map_cons, itemsFrom, h a List.mem_cons_self, ih fun b hb => h b (List.mem_cons_of_mem a hb)]
    rfl

theorem Checked.list_ofTexts (other : ShapeFault) (texts : List Text) :
    Checked.list other Checked.text (Json.ofTexts texts).asWritten = .valid texts := by
  have h : itemsFrom Checked.text 0 (texts.map Json.text) = .valid (texts.map id) :=
    itemsFrom_map texts (fun s _ => show Checked.text (.text s) = .valid (id s) from rfl) 0
  rw [Json.ofTexts, Json.asWritten, Json.writtenItems_eq_map, List.map_map, list]
  rw [List.map_id] at h
  exact h

theorem Checked.orNull_ofTextOption (s : Option Text) :
    Checked.orNull Checked.text (Json.ofTextOption s).asWritten = .valid s := by
  cases s <;> rfl

theorem Category.choice_key (c : Category) : Checked.choice Category.ofKey? (.text c.key) = .valid c := by
  cases c <;> rfl

theorem ParameterKind.choice_key (k : ParameterKind) : Checked.choice ParameterKind.ofKey? (.text k.key) = .valid k := by
  cases k <;> rfl

theorem Severity.orNull_key (s : Option Severity) :
    Checked.orNull (Checked.choice Severity.ofKey?) (Json.ofTextOption (s.map Severity.key)).asWritten = .valid s := by
  rcases s with _ | s
  · rfl
  · cases s <;> rfl

/-! ### Records -/

/-- The record of a parameter is read as this parameter. -/
theorem Parameter.check_toJson (p : Parameter) : Parameter.check p.toJson.asWritten = .valid p.asWritten := by
  have htype := ParameterKind.choice_key p.kind
  have hdescription := Checked.orNull_ofTextOption p.description
  show Parameter.mk <$> Checked.valid p.name
    <*> (Checked.choice ParameterKind.ofKey? (.text p.kind.key)).within (.key "type")
    <*> (Checked.valid p.defaultValue.asWritten).within (.key "default_value")
    <*> (Checked.orNull Checked.text (Json.ofTextOption p.description).asWritten).within (.key "description") = _
  rw [htype, hdescription]
  rfl

theorem Rule.check_parameters (parameters : Option (List Parameter)) :
    Checked.orNull (Checked.list .notTuple Parameter.check)
      ((parameters.map fun ps => Json.list (ps.map Parameter.toJson)).getD .null).asWritten =
      .valid (parameters.map (·.map Parameter.asWritten)) := by
  cases parameters with
  | none => rfl
  | some ps =>
    have hitems := Checked.itemsFrom_map ps (fun p _ => Parameter.check_toJson p) 0
    have hwritten : (Json.list (ps.map Parameter.toJson)).asWritten = .list (ps.map fun p => p.toJson.asWritten) := by
      rw [Json.asWritten, Json.writtenItems_eq_map, List.map_map]
      rfl
    show Checked.orNull _ (Json.list (ps.map Parameter.toJson)).asWritten = _
    rw [hwritten]
    show (Checked.itemsFrom Parameter.check 0 _).map some = _
    rw [hitems]
    rfl

/-- The record of a rule is read as this rule. -/
theorem Rule.check_toJson (r : Rule) : Rule.check r.toJson.asWritten = .valid r.asWritten := by
  show Rule.mk <$> Checked.valid r.id
    <*> Checked.valid r.name
    <*> Checked.valid r.description
    <*> (Checked.choice Category.ofKey? (.text r.category.key)).within (.key "category")
    <*> Checked.valid r.isOptin
    <*> (Checked.orNull (Checked.choice Severity.ofKey?)
      (Json.ofTextOption (r.defaultSeverity.map Severity.key)).asWritten).within (.key "default_severity")
    <*> (Checked.orNull (Checked.list .notTuple Parameter.check)
      ((r.parameters.map fun ps => Json.list (ps.map Parameter.toJson)).getD .null).asWritten).within (.key "parameters")
    <*> (Checked.list .notTuple Checked.text (Json.ofTexts r.triggeringExamples).asWritten).within
      (.key "triggering_examples")
    <*> (Checked.list .notTuple Checked.text (Json.ofTexts r.nonTriggeringExamples).asWritten).within
      (.key "non_triggering_examples")
    <*> (Checked.orNull Checked.text (Json.ofTextOption r.documentationUrl).asWritten).within (.key "documentation_url")
    <*> Checked.valid r.supportsAutocorrection
    <*> (Checked.orNull Checked.text (Json.ofTextOption r.minimumToolVersion).asWritten).within
      (.key "minimum_tool_version") = _
  rw [Category.choice_key, Severity.orNull_key, Rule.check_parameters, Checked.list_ofTexts, Checked.list_ofTexts,
    Checked.orNull_ofTextOption, Checked.orNull_ofTextOption]
  rfl

/-! ### Default values -/

/-- Something holds for every default value of a rule. -/
def Rule.ForDefaults (r : Rule) (holds : Json → Prop) : Prop := ∀ ps ∈ r.parameters, ∀ p ∈ ps, holds p.defaultValue

/-- The default values of a rule are as they are read from a text. -/
def Rule.IsSound (r : Rule) : Prop := r.ForDefaults Json.IsSound

/-- The whole numbers of a value are not too long to be read, their signs included. -/
def Json.FitsChars (v : Json) : Prop := v.allInts (-(10 ^ (Checked.maxWholeChars - 1)) < ·) = true

/-- How deep a default value may be nested for its record to be read: a snapshot, its list of rules, the rule, its list of
parameters and the parameter stand around it. -/
def Parameter.readNesting : ℕ := Checked.maxNesting - 5

/-- The default values of a rule are not nested too deep to be read, and hold no whole number that is too long. -/
def Rule.IsReadable (r : Rule) : Prop := r.ForDefaults fun v => v.filledDepth ≤ Parameter.readNesting ∧ v.FitsChars

instance : DecidablePred Json.FitsChars := fun v => inferInstanceAs (Decidable (v.allInts _ = true))

instance (r : Rule) (holds : Json → Prop) [DecidablePred holds] : Decidable (r.ForDefaults holds) :=
  inferInstanceAs (Decidable (∀ ps ∈ r.parameters, ∀ p ∈ ps, holds p.defaultValue))

instance : DecidablePred Rule.IsReadable := fun r =>
  inferInstanceAs (Decidable (r.ForDefaults fun v => v.filledDepth ≤ Parameter.readNesting ∧ v.FitsChars))

section

variable {holds : ℕ → Json → Prop} (hp : Json.IsPartwise holds)

include hp

theorem Json.IsPartwise.ofTextOption (n : ℕ) (s : Option Text) : holds n (.ofTextOption s) := by
  cases s with
  | none => exact hp.null n
  | some s => exact hp.text n s

theorem Json.IsPartwise.ofTexts (n : ℕ) (texts : List Text) : holds (n + 1) (.ofTexts texts) := by
  refine (hp.list n _).mpr fun v hv => ?_
  obtain ⟨s, -, rfl⟩ := List.mem_map.mp hv
  exact hp.text n s

theorem Parameter.holds_toJson_iff (n : ℕ) (p : Parameter) : holds (n + 1) p.toJson ↔ holds n p.defaultValue := by
  have keys : (["name", "type", "default_value", "description"] : List Text).Nodup := by decide
  refine Iff.trans (hp.object n _ keys) ?_
  simp only [List.forall_mem_cons]
  constructor
  · rintro ⟨-, -, h, -⟩
    exact h
  · intro h
    exact ⟨hp.text n _, hp.text n _, h, hp.ofTextOption n _, List.forall_mem_nil _⟩

/-- What is to hold for the record of a rule is to hold for its default values, three levels below. -/
theorem Rule.holds_toJson_iff (n : ℕ) (r : Rule) : holds (n + 3) r.toJson ↔ r.ForDefaults (holds n) := by
  have hparameters : holds (n + 2) ((r.parameters.map fun ps => Json.list (ps.map Parameter.toJson)).getD .null) ↔
      r.ForDefaults (holds n) := by
    unfold ForDefaults
    cases r.parameters with
    | none => simp [hp.null]
    | some ps =>
      show holds (n + 2) (.list (ps.map Parameter.toJson)) ↔ _
      rw [hp.list, List.forall_mem_map]
      simp only [Parameter.holds_toJson_iff hp, Option.mem_def, Option.some.injEq, forall_eq']
  have keys : (["id", "name", "description", "category", "is_optin", "default_severity", "parameters",
    "triggering_examples", "non_triggering_examples", "documentation_url", "supports_autocorrection",
    "minimum_tool_version"] : List Text).Nodup := by decide
  refine Iff.trans (hp.object (n + 2) _ keys) ?_
  rw [← hparameters]
  simp only [List.forall_mem_cons]
  constructor
  · rintro ⟨-, -, -, -, -, -, h, -⟩
    exact h
  · intro h
    exact ⟨hp.text _ _, hp.text _ _, hp.text _ _, hp.text _ _, hp.bool _ _, hp.ofTextOption _ _, h,
      hp.ofTexts (n + 1) _, hp.ofTexts (n + 1) _, hp.ofTextOption _ _, hp.bool _ _, hp.ofTextOption _ _,
      List.forall_mem_nil _⟩

end

end LintPreview
