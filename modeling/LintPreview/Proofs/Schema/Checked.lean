import LintPreview.Schema.Checked

/-!
# When a check succeeds

* `map_eq_valid_iff`, `seq_eq_valid_iff`: a record is valid if all its members are.
* `within_eq_valid_iff`, `andThen_eq_valid_iff`, `withDefault_eq_valid_iff`: the same for a place, for a check that goes
  on, and for a member that may be left out.
* `ofJsonText_eq_valid`: a text that is valid holds a JSON value that is.
-/

namespace LintPreview.Checked

variable {α β : Type}

theorem map_eq_valid_iff {f : α → β} {x : Checked α} {b : β} : f <$> x = .valid b ↔ ∃ a, x = .valid a ∧ f a = b := by
  constructor
  · intro h
    cases x with
    | valid a => exact ⟨a, rfl, by cases h; rfl⟩
    | invalid faults => cases h
  · rintro ⟨a, rfl, rfl⟩
    rfl

theorem seq_eq_valid_iff {f : Checked (α → β)} {x : Checked α} {b : β} :
    f <*> x = .valid b ↔ ∃ g a, f = .valid g ∧ x = .valid a ∧ g a = b := by
  constructor
  · intro h
    cases f with
    | valid g =>
      cases x with
      | valid a => exact ⟨g, a, rfl, rfl, by cases h; rfl⟩
      | invalid faults => cases h
    | invalid faults => cases x <;> cases h
  · rintro ⟨g, a, rfl, rfl, rfl⟩
    rfl

theorem within_eq_valid_iff {step : PlaceStep} {x : Checked α} {a : α} : x.within step = .valid a ↔ x = .valid a := by
  cases x with
  | valid a' => exact Iff.rfl
  | invalid faults => constructor <;> nofun

theorem andThen_eq_valid_iff {x : Checked α} {f : α → Checked β} {b : β} :
    x.andThen f = .valid b ↔ ∃ a, x = .valid a ∧ f a = .valid b := by
  cases x with
  | valid a =>
    constructor
    · intro h
      exact ⟨a, rfl, h⟩
    · rintro ⟨a', ha, h⟩
      cases ha
      exact h
  | invalid faults =>
    constructor
    · nofun
    · rintro ⟨a, ha, -⟩
      cases ha

theorem withDefault_eq_valid_iff {key : Text} {default a : α} {check : Json → Checked α}
    {members : List (Text × Json)} : withDefault key default check members = .valid a ↔
      (∃ v, valueUnder? key members = some v ∧ check v = .valid a) ∨ valueUnder? key members = none ∧ a = default := by
  unfold withDefault
  cases valueUnder? key members with
  | some v => simp [within_eq_valid_iff]
  | none => simp [eq_comm]

theorem ofJsonText_eq_valid {check : Json → Checked α} {s : Text} {a : α} (h : ofJsonText check s = .valid a) :
    ∃ v, Json.read s = .ok v ∧ check v = .valid a := by
  unfold ofJsonText at h
  split at h
  · cases h
  · rename_i v hv
    split at h
    · exact ⟨v, hv, h⟩
    · cases h

end LintPreview.Checked
