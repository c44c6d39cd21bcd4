import LintPreview.Proofs.Json.Unread
import LintPreview.Proofs.Rule.Fields
import LintPreview.Proofs.Rule.Firsts
import LintPreview.Proofs.Rule.Skipping

/-!
# Rules that are written as descriptors

* `Json.HasField`: an object has a field under one of its keys, or has left out what could as well be null.
* `Parameter.IsWrittenAs`, `Rule.IsWrittenAs`: a descriptor of a parameter, and of a rule.
* `Rule.ofDescriptor_of_isWrittenAs`: a descriptor of a rule is read as this rule.
* `Rule.holds_descriptors_iff`: what is to hold for an array of descriptors is to hold for the default values in it.
* `readRuleList_descriptors`: a listing of descriptors gives the rules they were written for; its text can be read if the
  default values can.
-/

namespace LintPreview

/-! ### Fields of objects -/

namespace Json

/-- An object has no key twice, and only keys of a kind. -/
inductive HasOnlyKeys (allowed : Text → Prop) : Json → Prop where
  | object {entries : List (Text × Json)} (keys : (entries.map (·.1)).Nodup) (only : ∀ e ∈ entries, allowed e.1) :
      HasOnlyKeys allowed (.object entries)

/-- An object has a field: a value that may be written for it stands under one of its keys and nothing under the others,
or, if this value may be null, nothing at all. -/
inductive HasField (item : Json) (keys : List Text) (written : Json → Prop) : Prop where
  | given {key : Text} {v : Json} (mem : key ∈ keys) (found : item.get? key = some v) (value : written v)
      (alone : ∀ other ∈ keys, other ≠ key → item.get? other = none) : HasField item keys written
  | leftOut (null : written .null) (nothing : ∀ key ∈ keys, item.get? key = none) : HasField item keys written

namespace HasField

variable {item : Json} {key key' : Text} {written : Json → Prop}

theorem of_first {v : Json} {others : List Text} (found : item.get? key = some v) (value : written v)
    (rest : ∀ other ∈ others, item.get? other = none) : item.HasField (key :: others) written := by
  refine .given List.mem_cons_self found value fun other hother hne => ?_
  rcases List.mem_cons.mp hother with rfl | hother
  · exact absurd rfl hne
  · exact rest other hother

theorem of_second {v : Json} (found : item.get? key' = some v) (value : written v) (first : item.get? key = none) :
    item.HasField [key, key'] written := by
  refine .given (List.mem_cons_of_mem key List.mem_cons_self) found value fun other hother hne => ?_
  rcases List.mem_cons.mp hother with rfl | hother
  · exact first
  · exact absurd (List.mem_singleton.mp hother) hne

/-- What is found under the key of a field is written for it, if what counts when there is nothing is as good as null. -/
theorem getD (h : item.HasField [key] written) {default : Json} (hdefault : written .null → written default) :
    written ((item.get? key).getD default) := by
  cases h with
  | given mem found value alone =>
    obtain rfl := List.mem_singleton.mp mem
    rw [found]
    exact value
  | leftOut null nothing =>
    rw [nothing key List.mem_cons_self]
    exact hdefault null

theorem field (h : item.HasField [key] written) : written (item.field key) := h.getD id

theorem exists_found (h : item.HasField [key] written) (hnull : ¬ written .null) :
    ∃ v, written v ∧ item.get? key = some v := by
  cases h with
  | given mem found value alone =>
    obtain rfl := List.mem_singleton.mp mem
    exact ⟨_, value, found⟩
  | leftOut null nothing => exact absurd null hnull

/-- A field that has two keys stands under one of them. -/
theorem get?_pair (h : item.HasField [key, key'] written) (hne : key ≠ key') :
    (∃ v, written v ∧ (item.get? key = some v ∧ item.get? key' = none ∨
      item.get? key = none ∧ item.get? key' = some v)) ∨
    written .null ∧ item.get? key = none ∧ item.get? key' = none := by
  cases h with
  | given mem found value alone =>
    left
    rcases List.mem_cons.mp mem with rfl | mem
    · exact ⟨_, value, .inl ⟨found, alone key' (by simp) hne.symm⟩⟩
    · obtain rfl := List.mem_singleton.mp mem
      exact ⟨_, value, .inr ⟨alone key (by simp) hne, found⟩⟩
  | leftOut null nothing => exact .inr ⟨null, nothing key (by simp), nothing key' (by simp)⟩

theorem getD_pair (h : item.HasField [key, key'] written) (hne : key ≠ key') {default : Json}
    (hdefault : written .null → written default) :
    written ((item.get? key).getD ((item.get? key').getD default)) := by
  obtain ⟨v, hv, ⟨hkey, hkey'⟩ | ⟨hkey, hkey'⟩⟩ | ⟨hnull, hkey, hkey'⟩ := h.get?_pair hne
  · rwa [hkey]
  · rwa [hkey, hkey']
  · rw [hkey, hkey']
    exact hdefault hnull

/-- What is not given under the first key is looked for under the second. -/
theorem orElse (h : item.HasField [key, key'] written) (hne : key ≠ key') :
    ∃ v, written v ∧ ((item.field key).orElse (item.field key') = v ∨
      v.isTruthy = false ∧ (item.field key).orElse (item.field key') = .null) := by
  unfold Json.field
  obtain ⟨v, hv, ⟨hkey, hkey'⟩ | ⟨hkey, hkey'⟩⟩ | ⟨hnull, hkey, hkey'⟩ := h.get?_pair hne
  · rw [hkey, hkey', Option.getD_some]
    refine ⟨v, hv, ?_⟩
    cases hgiven : v.isTruthy with
    | true => exact .inl (if_pos hgiven)
    | false => exact .inr ⟨rfl, if_neg (by rw [hgiven]; exact Bool.false_ne_true)⟩
  · rw [hkey, hkey']
    exact ⟨v, hv, .inl rfl⟩
  · rw [hkey, hkey']
    exact ⟨.null, hnull, .inl rfl⟩

theorem orElse_of_isTruthy (h : item.HasField [key, key'] written) (hne : key ≠ key')
    (hgiven : ∀ v, written v → v.isTruthy = true) : written ((item.field key).orElse (item.field key')) := by
  obtain ⟨v, hv, hread | ⟨hnone, -⟩⟩ := h.orElse hne
  · rwa [hread]
  · rw [hgiven v hv] at hnone
    cases hnone

end HasField

theorem valueUnder?_of_mem {α : Type} {entries : List (Text × α)} (keys : (entries.map (·.1)).Nodup) {e : Text × α}
    (he : e ∈ entries) : valueUnder? e.1 entries = some e.2 := by
  induction entries with
  | nil => cases he
  | cons f entries ih =>
    rw [List.map_cons, List.nodup_cons] at keys
    rw [valueUnder?]
    rcases List.mem_cons.mp he with rfl | he
    · exact if_pos rfl
    · have hne : f.1 ≠ e.1 := fun heq => keys.1 (List.mem_map.mpr ⟨e, he, heq.symm⟩)
      rw [if_neg hne]
      exact ih keys.2 he

namespace HasField

variable {entries : List (Text × Json)} {keys : List Text} {written : Json → Prop}

/-- What stands under a key of a field is written for it. -/
theorem written_of_mem (h : (Json.object entries).HasField keys written) (hkeys : (entries.map (·.1)).Nodup)
    {e : Text × Json} (he : e ∈ entries) (hkey : e.1 ∈ keys) : written e.2 := by
  have hfound : (Json.object entries).get? e.1 = some e.2 := valueUnder?_of_mem hkeys he
  cases h with
  | @given key v mem found value alone =>
    by_cases heq : e.1 = key
    · rw [heq, found] at hfound
      cases hfound
      exact value
    · rw [alone e.1 hkey heq] at hfound
      cases hfound
  | leftOut null nothing =>
    rw [nothing e.1 hkey] at hfound
    cases hfound

/-- What is written for a field stands among the entries, or is null. -/
theorem exists_written (h : (Json.object entries).HasField keys written) :
    ∃ v, written v ∧ (v = .null ∨ ∃ e ∈ entries, e.2 = v) := by
  cases h with
  | @given key v mem found value alone =>
    obtain ⟨k, hk⟩ := exists_of_valueUnder? found
    exact ⟨v, value, .inr ⟨(k, v), hk, rfl⟩⟩
  | leftOut null nothing => exact ⟨.null, null, .inl rfl⟩

end HasField

end Json

/-! ### Descriptors -/

/-- A value is a descriptor of a parameter. -/
structure Parameter.IsWrittenAs (p : Parameter) (raw : Json) : Prop where
  object : raw.HasOnlyKeys (· ∈ (["name", "type", "default_value", "default", "description"] : List Text))
  name : raw.HasField ["name"] (· = .text p.name)
  kind : raw.HasField ["type"] (· = .text p.kind.key)
  defaultValue : raw.HasField ["default_value", "default"] (· = p.defaultValue)
  description : raw.HasField ["description"] (· = .ofTextOption p.description)

/-- A value lists the descriptors of parameters, or is null if there is no list. -/
inductive Parameter.AreWrittenAs : Option (List Parameter) → Json → Prop where
  | missing : AreWrittenAs none .null
  | listed {ps : List Parameter} {raws : List Json} (all : List.Forall₂ Parameter.IsWrittenAs ps raws) :
      AreWrittenAs (some ps) (.list raws)

/-- A value may be written for a field of a rule. -/
def RuleField.IsWrittenAs : RuleField → Rule → Json → Prop
  | .id, r, v => v = .text r.id
  | .name, r, v => v = .text r.name
  | .description, r, v => v = .text r.description
  | .category, r, v => v = .text r.category.key
  | .isOptin, r, v => v = .bool r.isOptin
  | .defaultSeverity, r, v => v = .ofTextOption (r.defaultSeverity.map Severity.key)
  | .parameters, r, v => Parameter.AreWrittenAs r.parameters v
  | .triggeringExamples, r, v => v = .ofTexts r.triggeringExamples
  | .nonTriggeringExamples, r, v => v = .ofTexts r.nonTriggeringExamples
  | .documentationUrl, r, v => v = .ofTextOption r.documentationUrl
  | .supportsAutocorrection, r, v => v = .bool r.supportsAutocorrection
  | .minimumToolVersion, r, v => v = .ofTextOption r.minimumToolVersion

/-- A value is a descriptor of a rule. -/
structure Rule.IsWrittenAs (r : Rule) (item : Json) : Prop where
  object : item.HasOnlyKeys fun key => ∃ f : RuleField, key ∈ f.keys
  field : ∀ f : RuleField, item.HasField f.keys (f.IsWrittenAs r)

/-- The descriptor of a rule that names every field, each under the first of its keys. -/
def Rule.descriptor (r : Rule) : Json := .object [
  ("identifier", .text r.id),
  ("name", .text r.name),
  ("description", .text r.description),
  ("kind", .text r.category.key),
  ("opt_in", .bool r.isOptin),
  ("default_severity", .ofTextOption (r.defaultSeverity.map Severity.key)),
  ("parameters", (r.parameters.map fun ps => Json.list (ps.map Parameter.toJson)).getD .null),
  ("triggering_examples", .ofTexts r.triggeringExamples),
  ("nontriggering_examples", .ofTexts r.nonTriggeringExamples),
  ("documentation", .ofTextOption r.documentationUrl),
  ("correctable", .bool r.supportsAutocorrection),
  ("minimum_swift_version", .ofTextOption r.minimumToolVersion)]

/-- The record of a parameter is one of its descriptors. -/
theorem Parameter.isWrittenAs_toJson (p : Parameter) : p.IsWrittenAs p.toJson where
  object := by
    have keys : (["name", "type", "default_value", "description"] : List Text).Nodup := by decide
    exact .object keys (by simp)
  name := .of_first rfl rfl (List.forall_mem_nil _)
  kind := .of_first rfl rfl (List.forall_mem_nil _)
  defaultValue := .of_first rfl rfl (List.forall_mem_singleton.mpr rfl)
  description := .of_first rfl rfl (List.forall_mem_nil _)

theorem Parameter.areWrittenAs_toJson (parameters : Option (List Parameter)) :
    Parameter.AreWrittenAs parameters ((parameters.map fun ps => Json.list (ps.map Parameter.toJson)).getD .null) := by
  cases parameters with
  | none => exact .missing
  | some ps =>
    refine .listed ?_
    rw [List.forall₂_map_right_iff, List.forall₂_same]
    exact fun p _ => p.isWrittenAs_toJson

/-- Every rule has a descriptor. -/
theorem Rule.isWrittenAs_descriptor (r : Rule) : r.IsWrittenAs r.descriptor where
  object := by
    have keys : (["identifier", "name", "description", "kind", "opt_in", "default_severity", "parameters",
      "triggering_examples", "nontriggering_examples", "documentation", "correctable",
      "minimum_swift_version"] : List Text).Nodup := by decide
    refine .object keys ?_
    simp only [List.forall_mem_cons]
    exact ⟨⟨.id, List.mem_cons_self⟩, ⟨.name, List.mem_cons_self⟩, ⟨.description, List.mem_cons_self⟩,
      ⟨.category, List.mem_cons_self⟩, ⟨.isOptin, List.mem_cons_self⟩, ⟨.defaultSeverity, List.mem_cons_self⟩,
      ⟨.parameters, List.mem_cons_self⟩, ⟨.triggeringExamples, List.mem_cons_self⟩,
      ⟨.nonTriggeringExamples, List.mem_cons_self⟩, ⟨.documentationUrl, List.mem_cons_self⟩,
      ⟨.supportsAutocorrection, List.mem_cons_self⟩, ⟨.minimumToolVersion, List.mem_cons_self⟩, List.forall_mem_nil _⟩
  field f := by
    cases f with
    | id | category | isOptin | nonTriggeringExamples => exact .of_first rfl rfl (List.forall_mem_singleton.mpr rfl)
    | parameters => exact .of_first rfl (Parameter.areWrittenAs_toJson r.parameters) (List.forall_mem_nil _)
    | _ => exact .of_first rfl rfl (List.forall_mem_nil _)

/-! ### Reading descriptors -/

theorem DescriptorRead.ofOption_some {α : Type} (a : α) : (ofOption (some a) : DescriptorRead α) = pure a := rfl

theorem DescriptorRead.ofText_ok {α : Type} (a : α) : (ofText (.ok a) : DescriptorRead α) = pure a := rfl

theorem DescriptorRead.mapM_eq_pure {α β : Type} {f : α → DescriptorRead β} {as : List α} {bs : List β}
    (h : List.Forall₂ (fun b a => f a = pure b) bs as) : as.mapM f = pure bs := by
  induction h with
  | nil => rfl
  | cons h _ ih => rw [List.mapM_cons, h, pure_bind, ih, pure_bind]

open DescriptorRead (ofOption_some ofText_ok mapM_eq_pure)

theorem Json.optionalText?_ofTextOption (s : Option Text) : (Json.ofTextOption s).optionalText? = some s := by
  cases s <;> rfl

theorem Json.mapM_asText?_map_text (texts : List Text) : (texts.map Json.text).mapM asText? = some texts := by
  induction texts with
  | nil => rfl
  | cons s texts ih =>
    rw [List.map_cons, List.mapM_cons, ih]
    rfl

theorem Json.listedTexts?_ofTexts (texts : List Text) : (Json.ofTexts texts).listedTexts? = some texts := by
  cases texts with
  | nil => rfl
  | cons s texts =>
    have hgiven : (ofTexts (s :: texts)).isTruthy = true := rfl
    rw [listedTexts?, if_pos hgiven]
    exact mapM_asText?_map_text (s :: texts)

theorem Text.isEmpty_of_ne_empty {s : Text} (h : s ≠ empty) : s.isEmpty = false := by
  rw [← Bool.not_eq_true]
  exact fun hempty => h (ext_toList (List.isEmpty_iff.mp hempty))

theorem Json.isTruthy_text {s : Text} (h : s ≠ Text.empty) : (Json.text s).isTruthy = true := by
  rw [isTruthy, Text.isEmpty_of_ne_empty h]
  rfl

theorem ParameterKind.ofKey?_key (kind : ParameterKind) : ofKey? kind.key = some kind := by
  cases kind <;> rfl

theorem Category.ofKind_key (c : Category) : Category.ofKind (.text c.key) = .ok c := by
  cases c <;> rfl

theorem Category.key_ne_empty (c : Category) : c.key ≠ Text.empty := by
  cases c <;> decide

theorem Severity.option_key (s : Option Severity) :
    (if (Json.ofTextOption (s.map key)).isTruthy then (ofRaw (Json.ofTextOption (s.map key))).map some else .ok none) =
      .ok s := by
  rcases s with _ | s
  · rfl
  · cases s <;> rfl

theorem Json.description_text (s : Text) :
    (if (Json.text s).isTruthy then (Json.text s).asText? else some Text.empty) = some s := by
  by_cases h : s = Text.empty
  · rw [h]
    rfl
  · rw [if_pos (isTruthy_text h)]
    rfl

/-- A descriptor of a parameter is read as this parameter. -/
theorem Parameter.ofDescriptor_of_isWrittenAs {p : Parameter} {raw : Json} (h : p.IsWrittenAs raw) :
    Parameter.ofDescriptor raw = pure p := by
  obtain ⟨hobject, hname, hkind, hdefault, hdescription⟩ := h
  cases hobject with
  | @object entries keys only =>
    obtain ⟨_, rfl, hname⟩ := hname.exists_found nofun
    obtain ⟨_, rfl, hkind⟩ := hkind.exists_found nofun
    have hdefault := hdefault.getD_pair (by decide) id
    have hdescription := hdescription.field
    simp only [Json.field, Json.get?] at hname hkind hdefault hdescription
    simp only [Parameter.ofDescriptor, hname, hkind, hdefault, hdescription, ParameterKind.ofKey?_key, Json.asText?,
      Json.optionalText?_ofTextOption, ofOption_some, pure_bind]

/-- The list of parameters that is written is read again. -/
theorem Parameter.mapM_ofDescriptor {ps : List Parameter} {raws : List Json}
    (h : List.Forall₂ Parameter.IsWrittenAs ps raws) : raws.mapM Parameter.ofDescriptor = pure ps :=
  mapM_eq_pure (h.imp fun _ _ => Parameter.ofDescriptor_of_isWrittenAs)

namespace Rule.IsWrittenAs

variable {r : Rule} {item : Json} (h : r.IsWrittenAs item)

include h

theorem readId (hr : r.IsLabelled) : descriptorId? item = some r.id := by
  have hread : (item.field "identifier").orElse (item.field "id") = .text r.id := by
    refine (h.field .id).orElse_of_isTruthy (by decide) ?_
    rintro v rfl
    exact Json.isTruthy_text hr.id_ne_empty
  rw [descriptorId?, hread]
  simp only [hr.trim_id, Text.isEmpty_of_ne_empty hr.id_ne_empty, Bool.false_eq_true, if_false]

theorem readName (hr : r.IsLabelled) : descriptorName? item r.id = some r.name := by
  have hread : item.field "name" = .text r.name := (h.field .name).field
  rw [descriptorName?, hread, if_pos (Json.isTruthy_text hr.name_ne_empty)]
  rfl

theorem readCategory : Category.ofKind ((item.field "kind").orElse (item.field "category")) = .ok r.category := by
  have hread : (item.field "kind").orElse (item.field "category") = .text r.category.key := by
    refine (h.field .category).orElse_of_isTruthy (by decide) ?_
    rintro v rfl
    exact Json.isTruthy_text (Category.key_ne_empty _)
  rw [hread, Category.ofKind_key]

/-- No examples under the first key are looked for under the second, where nothing stands. -/
theorem readNonTriggering : ((item.field "nontriggering_examples").orElse
    (item.field "non_triggering_examples")).listedTexts? = some r.nonTriggeringExamples := by
  obtain ⟨v, rfl, hread | ⟨hnone, hread⟩⟩ := (h.field .nonTriggeringExamples).orElse (by decide)
  · rw [hread, Json.listedTexts?_ofTexts]
  · rw [hread, ← Json.listedTexts?_ofTexts, Json.listedTexts?, Json.listedTexts?, hnone]
    rfl

end Rule.IsWrittenAs

/-- A descriptor of a rule is read as this rule. -/
theorem Rule.ofDescriptor_of_isWrittenAs {r : Rule} {item : Json} (hr : r.IsLabelled) (h : r.IsWrittenAs item) :
    Rule.ofDescriptor item = pure r := by
  have hdescription : item.field "description" = .text r.description := (h.field .description).field
  have hseverity : item.field "default_severity" = .ofTextOption (r.defaultSeverity.map Severity.key) :=
    (h.field .defaultSeverity).field
  have htriggering : item.field "triggering_examples" = .ofTexts r.triggeringExamples :=
    (h.field .triggeringExamples).field
  have hdocumentation : item.field "documentation" = .ofTextOption r.documentationUrl :=
    (h.field .documentationUrl).field
  have hminimum : item.field "minimum_swift_version" = .ofTextOption r.minimumToolVersion :=
    (h.field .minimumToolVersion).field
  have hoptin : (item.get? "opt_in").getD ((item.get? "is_opt_in").getD (.bool false)) = .bool r.isOptin :=
    (h.field .isOptin).getD_pair (by decide) nofun
  have hcorrectable : (item.get? "correctable").getD (.bool false) = .bool r.supportsAutocorrection :=
    (h.field .supportsAutocorrection).getD nofun
  have hparameters : Parameter.AreWrittenAs r.parameters (item.field "parameters") := (h.field .parameters).field
  unfold Rule.ofDescriptor
  dsimp only
  rw [h.readId hr, h.readCategory, hseverity, Severity.option_key, htriggering, Json.listedTexts?_ofTexts,
    h.readNonTriggering, hdescription, Json.description_text, hdocumentation, Json.optionalText?_ofTextOption, hminimum,
    Json.optionalText?_ofTextOption, hoptin, hcorrectable]
  generalize item.field "parameters" = v at hparameters
  generalize hlist : r.parameters = parameters at hparameters
  cases hparameters with
  | missing =>
    simp only [ofOption_some, ofText_ok, pure_bind, h.readName hr]
    rw [← hlist]
    rfl
  | listed all =>
    simp only [ofOption_some, ofText_ok, pure_bind, h.readName hr, Parameter.mapM_ofDescriptor all, map_pure]
    rw [← hlist]
    rfl

/-- A list of descriptors is read as the rules they were written for. -/
theorem rulesOfDescriptors_of_isWrittenAs {rules : List Rule} {items : List Json}
    (hwritten : List.Forall₂ Rule.IsWrittenAs rules items) (hlabelled : ∀ r ∈ rules, r.IsLabelled) :
    rulesOfDescriptors items = .ok rules := by
  induction hwritten with
  | nil => rfl
  | @cons r item rules items h _ ih =>
    have hread := Rule.ofDescriptor_of_isWrittenAs (hlabelled r List.mem_cons_self) h
    cases h.object with
    | object keys only =>
      rw [rulesOfDescriptors, hread, ih fun s hs => hlabelled s (List.mem_cons_of_mem r hs)]
      rfl

/-! ### What is written -/

section

variable {holds : ℕ → Json → Prop} (hp : Json.IsPartwise holds)

include hp

/-- What is to hold for a descriptor of a parameter is to hold for its default value. -/
theorem Parameter.IsWrittenAs.holds_iff {p : Parameter} {raw : Json} (h : p.IsWrittenAs raw) (n : ℕ) :
    holds (n + 1) raw ↔ holds n p.defaultValue := by
  obtain ⟨hobject, hname, hkind, hdefault, hdescription⟩ := h
  cases hobject with
  | object keys only =>
    rw [hp.object n _ keys]
    constructor
    · intro hall
      obtain ⟨v, rfl, hnull | ⟨e, he, hv⟩⟩ := hdefault.exists_written
      · rw [hnull]
        exact hp.null n
      · rw [← hv]
        exact hall e he
    · intro hvalue e he
      have hkey := only e he
      simp only [List.mem_cons, List.not_mem_nil, or_false] at hkey
      rcases hkey with hkey | hkey | hkey | hkey | hkey
      · rw [hname.written_of_mem keys he (by simp [hkey])]
        exact hp.text n _
      · rw [hkind.written_of_mem keys he (by simp [hkey])]
        exact hp.text n _
      · rwa [hdefault.written_of_mem keys he (by simp [hkey])]
      · rwa [hdefault.written_of_mem keys he (by simp [hkey])]
      · rw [hdescription.written_of_mem keys he (by simp [hkey])]
        exact hp.ofTextOption n _

/-- What is to hold for the descriptors of parameters is to hold for their default values. -/
theorem Parameter.holds_iff_of_areWrittenAs {r : Rule} {v : Json} (h : Parameter.AreWrittenAs r.parameters v) (n : ℕ) :
    holds (n + 2) v ↔ r.ForDefaults (holds n) := by
  unfold Rule.ForDefaults
  generalize r.parameters = parameters at h
  cases h with
  | missing => simp [hp.null]
  | @listed ps raws all =>
    simp only [hp.list, Option.mem_def, Option.some.injEq, forall_eq']
    induction all with
    | nil => simp
    | cons h _ ih => rw [List.forall_mem_cons, List.forall_mem_cons, h.holds_iff hp, ih]

/-- It holds for what is written for any field other than the parameters. -/
theorem RuleField.holds_of_isWrittenAs {f : RuleField} {r : Rule} {v : Json} (h : f.IsWrittenAs r v)
    (hf : f ≠ .parameters) (n : ℕ) : holds (n + 1) v := by
  cases f with
  | parameters => exact absurd rfl hf
  | id | name | description | category =>
    rw [show v = .text _ from h]
    exact hp.text _ _
  | isOptin | supportsAutocorrection =>
    rw [show v = .bool _ from h]
    exact hp.bool _ _
  | defaultSeverity | documentationUrl | minimumToolVersion =>
    rw [show v = .ofTextOption _ from h]
    exact hp.ofTextOption _ _
  | triggeringExamples | nonTriggeringExamples =>
    rw [show v = .ofTexts _ from h]
    exact hp.ofTexts n _

/-- What is to hold for a descriptor of a rule is to hold for its default values, three levels below. -/
theorem Rule.IsWrittenAs.holds_iff {r : Rule} {item : Json} (h : r.IsWrittenAs item) (n : ℕ) :
    holds (n + 3) item ↔ r.ForDefaults (holds n) := by
  obtain ⟨hobject, hfield⟩ := h
  cases hobject with
  | object keys only =>
    rw [hp.object (n + 2) _ keys]
    constructor
    · intro hall
      obtain ⟨v, hv, hnull | ⟨e, he, hev⟩⟩ := (hfield .parameters).exists_written
      · rw [← Parameter.holds_iff_of_areWrittenAs hp hv, hnull]
        exact hp.null (n + 2)
      · rw [← Parameter.holds_iff_of_areWrittenAs hp hv, ← hev]
        exact hall e he
    · intro hdefaults e he
      obtain ⟨f, hf⟩ := only e he
      have hwritten := (hfield f).written_of_mem keys he hf
      by_cases hparameters : f = .parameters
      · subst hparameters
        exact (Parameter.holds_iff_of_areWrittenAs hp hwritten n).mpr hdefaults
      · exact RuleField.holds_of_isWrittenAs hp hwritten hparameters (n + 1)

/-- What is to hold for an array of descriptors is to hold for the default values in it, four levels below. -/
theorem Rule.holds_descriptors_iff {rules : List Rule} {items : List Json}
    (h : List.Forall₂ Rule.IsWrittenAs rules items) (n : ℕ) :
    holds (n + 4) (.list items) ↔ ∀ r ∈ rules, r.ForDefaults (holds n) := by
  rw [hp.list]
  induction h with
  | nil => simp
  | cons h _ ih => rw [List.forall_mem_cons, List.forall_mem_cons, h.holds_iff hp, ih]

end

/-! ### Listings -/

/-- How deep a default value may be nested for its listing to be read: the array, the descriptor of the rule, its list of
parameters and the descriptor of the parameter stand around it. -/
def Parameter.listedNesting : ℕ := Json.maxDepth - 4

/-- The text of an array that is not empty starts with a bracket and ends with one. -/
theorem Json.isTrimmed_pretty {items : List Json} (h : items ≠ []) : Text.IsTrimmed (Json.list items).pretty.toList := by
  obtain ⟨v, rest, rfl⟩ := List.exists_cons_of_ne_nil h
  rw [pretty, Text.toList_ofList, prettyChars]
  refine ⟨List.cons_ne_nil _ _, ?_, ?_⟩
  · rintro c ⟨⟩
    rfl
  · intro c hc
    rw [← List.cons_append, List.getLast?_concat] at hc
    cases hc
    rfl

/-- An array that cannot be read gives no rules. -/
theorem readRuleList_ne_ok_of_unread {output : Text} (hbracket : output.trimmed.head? = some '[') {e : JsonError}
    (h : Json.readChars output.trimmed = .error e) (rules : List Rule) : readRuleList output ≠ .ok rules := by
  intro hrules
  obtain ⟨all, hall, -⟩ := readRuleList_eq_ok_iff.mp hrules
  rw [rulesOfListing, if_pos hbracket, h] at hall
  cases e <;> cases hall

section

variable {rules : List Rule} {items : List Json} (hne : rules ≠ []) (hlabelled : ∀ r ∈ rules, r.IsLabelled)
  (hids : (rules.map Rule.id).Nodup) (hwritten : List.Forall₂ Rule.IsWrittenAs rules items)

include hne hlabelled hids hwritten

/-- A text that is an array of descriptors gives the rules they were written for. -/
theorem readRuleList_of_isWrittenAs {output : Text} (harray : Json.readChars output.trimmed = .ok (.list items)) :
    readRuleList output = .ok rules := by
  refine readRuleList_eq_ok_iff.mpr ⟨rules, ?_, hne, (dropRepeatedIds_of_nodup hids).symm⟩
  rw [rulesOfListing_of_array harray, rulesOfDescriptors_of_isWrittenAs hwritten hlabelled]
  rfl

/-- An array of descriptors is written as a text that gives the rules, if and only if the default values can be read. -/
theorem readRuleList_pretty_iff
    (hdefaults : ∀ r ∈ rules, r.ForDefaults fun v => v.IsRegular ∧ v.isFinite = true) :
    readRuleList (Json.list items).pretty = .ok rules ↔
      ∀ r ∈ rules, r.ForDefaults fun v => v.allInts Json.isShort = true ∧ v.nesting ≤ Parameter.listedNesting := by
  have hitems : items ≠ [] := by
    rintro rfl
    cases hwritten
    exact hne rfl
  have htrimmed : (Json.list items).pretty.trimmed = (Json.list items).pretty.toList :=
    (Json.isTrimmed_pretty hitems).trimChars_eq
  obtain ⟨hregular, hfinite⟩ : (Json.list items).IsRegular ∧ (Json.list items).isFinite = true :=
    (Rule.holds_descriptors_iff (Json.isPartwise_isRegular.and Json.isPartwise_isFinite) hwritten 0).mpr hdefaults
  have hreadable : (Json.list items).IsReadable Json.maxDepth ↔ ∀ r ∈ rules, r.ForDefaults fun v =>
      v.allInts Json.isShort = true ∧ v.nesting ≤ Parameter.listedNesting := by
    have hvalues := Rule.holds_descriptors_iff ((Json.isPartwise_allInts Json.isShort).and Json.isPartwise_nesting)
      hwritten Parameter.listedNesting
    rw [← hvalues, Json.IsReadable, Json.isSound_iff]
    exact ⟨fun h => ⟨h.1.2, h.2⟩, fun h => ⟨⟨hregular, h.1⟩, h.2⟩⟩
  rw [← hreadable]
  constructor
  · intro hrules
    by_contra hnot
    obtain ⟨e, he⟩ := Json.read_pretty_of_unreadable hregular hnot
    refine readRuleList_ne_ok_of_unread ?_ (by rwa [htrimmed]) rules hrules
    obtain ⟨v, rest, rfl⟩ := List.exists_cons_of_ne_nil hitems
    rw [htrimmed, Json.pretty, Text.toList_ofList, Json.prettyChars]
    rfl
  · intro h
    apply readRuleList_of_isWrittenAs hne hlabelled hids hwritten
    rw [htrimmed]
    have hpretty := Json.read_pretty h.1 h.2
    rwa [Json.asWritten_of_isFinite _ hfinite] at hpretty

/-- Rules are listed as a JSON array of their descriptors: pairwise different ids without blanks around them, names that
are not empty, each field under one of its keys, and what is missing as null or left out. Every text that is this array
gives these rules. The array without NaN and infinities is written as such a text if and only if no whole number in a
default value is too long, and no default value is nested too deep. -/
theorem readRuleList_descriptors :
    (∀ output : Text, Json.readChars output.trimmed = .ok (.list items) → readRuleList output = .ok rules) ∧
    ((∀ r ∈ rules, r.ForDefaults fun v => v.IsRegular ∧ v.isFinite = true) →
      (readRuleList (Json.list items).pretty = .ok rules ↔
        ∀ r ∈ rules, r.ForDefaults fun v => v.allInts Json.isShort = true ∧ v.nesting ≤ Parameter.listedNesting)) :=
  ⟨fun _ => readRuleList_of_isWrittenAs hne hlabelled hids hwritten,
    readRuleList_pretty_iff hne hlabelled hids hwritten⟩

end

/-- A rule with a field that is empty, or not there, of each sort. -/
def otherKeysRule : Rule where
  id := "a"
  name := "A"
  category := .style
  isOptin := true
  parameters := some [⟨"p", .boolean, .bool false, none⟩]
  nonTriggeringExamples := ["x"]

/-- Its descriptor under the second of all keys, with one null and the other fields that may be null left out. -/
def otherKeysDescriptor : Json := .object [
  ("id", .text "a"),
  ("name", .text "A"),
  ("description", .text ""),
  ("category", .text "style"),
  ("is_opt_in", .bool true),
  ("parameters", .list [.object [("name", .text "p"), ("type", .text "boolean"), ("default", .bool false)]]),
  ("triggering_examples", .list []),
  ("non_triggering_examples", .list [.text "x"]),
  ("documentation", .null),
  ("correctable", .bool false)]

theorem isWrittenAs_otherKeysDescriptor : otherKeysRule.IsWrittenAs otherKeysDescriptor where
  object := by
    refine .object (by decide) ?_
    simp only [List.forall_mem_cons]
    exact ⟨⟨.id, by decide⟩, ⟨.name, by decide⟩, ⟨.description, by decide⟩, ⟨.category, by decide⟩,
      ⟨.isOptin, by decide⟩, ⟨.parameters, by decide⟩, ⟨.triggeringExamples, by decide⟩,
      ⟨.nonTriggeringExamples, by decide⟩, ⟨.documentationUrl, by decide⟩, ⟨.supportsAutocorrection, by decide⟩,
      List.forall_mem_nil _⟩
  field f := by
    cases f with
    | id | category | isOptin | nonTriggeringExamples => exact .of_second rfl rfl rfl
    | defaultSeverity | minimumToolVersion => exact .leftOut rfl (List.forall_mem_singleton.mpr rfl)
    | parameters =>
      refine .of_first rfl (.listed (.cons ?_ .nil)) (List.forall_mem_nil _)
      exact {
        object := .object (by decide) (by decide)
        name := .of_first rfl rfl (List.forall_mem_nil _)
        kind := .of_first rfl rfl (List.forall_mem_nil _)
        defaultValue := .of_second rfl rfl rfl
        description := .leftOut rfl (List.forall_mem_singleton.mpr rfl) }
    | _ => exact .of_first rfl rfl (List.forall_mem_nil _)

theorem readRuleList_descriptors_otherKeys :
    readRuleList ("[\x7b\"id\":\"a\",\"name\":\"A\",\"description\":\"\",\"category\":\"style\",\"is_opt_in\":true," ++
        "\"parameters\":[\x7b\"name\":\"p\",\"type\":\"boolean\",\"default\":false\x7d],\"triggering_examples\":[]," ++
        "\"non_triggering_examples\":[\"x\"],\"documentation\":null,\"correctable\":false\x7d]") = .ok [otherKeysRule] ∧
      readRuleList (Json.list [otherKeysDescriptor]).pretty = .ok [otherKeysRule] := by
  have hlabelled : otherKeysRule.IsLabelled := ⟨by decide, by decide, by decide⟩
  have hdefaults : ∀ ps ∈ otherKeysRule.parameters, ∀ p ∈ ps, p.defaultValue = .bool false := by
    rintro ps ⟨⟩ p (_ | ⟨_, ⟨⟩⟩)
    rfl
  obtain ⟨hread, hpretty⟩ := readRuleList_descriptors (List.cons_ne_nil otherKeysRule [])
    (List.forall_mem_singleton.mpr hlabelled) (List.nodup_singleton _) (.cons isWrittenAs_otherKeysDescriptor .nil)
  refine ⟨hread _ (by decide +kernel), (hpretty ?_).mpr ?_⟩
  · refine List.forall_mem_singleton.mpr fun ps hps p hp => ?_
    rw [hdefaults ps hps p hp]
    exact ⟨.bool false, rfl⟩
  · refine List.forall_mem_singleton.mpr fun ps hps p hp => ?_
    rw [hdefaults ps hps p hp]
    exact ⟨rfl, Nat.zero_le _⟩

/-- A rule whose parameter has a default value with 4301 digits. -/
def longDefaultRule : Rule where
  id := "a"
  name := "A"
  parameters := some [⟨"p", .integer, .int (10 ^ 4300), none⟩]

/-- The text of its descriptor does not give this rule. -/
theorem readRuleList_longDefault : longDefaultRule.IsLabelled ∧
    longDefaultRule.IsWrittenAs longDefaultRule.descriptor ∧
    (longDefaultRule.ForDefaults fun v => v.IsRegular ∧ v.isFinite = true) ∧
    readRuleList (Json.list [longDefaultRule.descriptor]).pretty ≠ .ok [longDefaultRule] := by
  have hlabelled : longDefaultRule.IsLabelled := ⟨by decide, by decide, by decide⟩
  have hwritten := longDefaultRule.isWrittenAs_descriptor
  have hdefaults : longDefaultRule.ForDefaults fun v => v.IsRegular ∧ v.isFinite = true := by
    rintro ps ⟨⟩ p (_ | ⟨_, ⟨⟩⟩)
    exact ⟨.int _, rfl⟩
  refine ⟨hlabelled, hwritten, hdefaults, fun hread => ?_⟩
  have hshort := (readRuleList_pretty_iff (List.cons_ne_nil _ _) (List.forall_mem_singleton.mpr hlabelled)
    (List.nodup_singleton _) (.cons hwritten .nil) (List.forall_mem_singleton.mpr hdefaults)).mp hread
  have hlong := (hshort longDefaultRule List.mem_cons_self _ rfl _ List.mem_cons_self).1
  revert hlong
  decide +kernel

end LintPreview
