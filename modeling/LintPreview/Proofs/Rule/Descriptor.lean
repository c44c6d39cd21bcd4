import LintPreview.Proofs.Rule.Listing
import LintPreview.Proofs.Rule.Record

/-!
# Default values in a listing

* `DescriptorRead.Gives`: what a reading can give.
* `Rule.IsReadOff`: what a descriptor holds where its rule is read off it.
* `Rule.isSound_of_ofDescriptor`: the default values of a rule are values of its descriptor.
* `isSound_of_readRuleList`: so the default values of every rule in a listing are as they are read from a text.
-/

namespace LintPreview

namespace DescriptorRead

variable {α β : Type} {P : α → Prop} {Q : β → Prop}

/-- What a reading gives, if it gives anything, has a property. -/
def Gives (x : DescriptorRead α) (P : α → Prop) : Prop := ∀ a, x.run = .ok (some a) → P a

theorem gives_any (x : DescriptorRead α) : x.Gives fun _ => True := fun _ _ => trivial

theorem gives_pure {a : α} (h : P a) : Gives (pure a) P := by
  intro b hb
  cases hb
  exact h

theorem gives_skip : Gives (skip : DescriptorRead α) P := nofun

theorem gives_stop (fault : DescriptorFault) : Gives (stop fault : DescriptorRead α) P := nofun

theorem gives_ofOption {o : Option α} (h : ∀ a, o = some a → P a) : (ofOption o).Gives P := by
  intro a ha
  exact h a (Except.ok.inj ha)

theorem gives_self {o : Option α} : (ofOption o).Gives fun a => o = some a := gives_ofOption fun _ h => h

theorem gives_ofText {x : Except NotText α} : (ofText x).Gives fun a => x = .ok a := by
  cases x with
  | error e => exact gives_stop _
  | ok a => exact gives_pure rfl

theorem Gives.bind {x : DescriptorRead α} {f : α → DescriptorRead β} (hx : x.Gives P) (hf : ∀ a, P a → (f a).Gives Q) :
    (x >>= f).Gives Q := by
  intro b h
  rw [OptionT.run_bind] at h
  cases hrun : x.run with
  | error e =>
    rw [hrun] at h
    cases h
  | ok o =>
    rw [hrun] at h
    cases o with
    | none => cases h
    | some a => exact hf a (hx a hrun) b h

theorem gives_mapM {f : α → DescriptorRead β} {as : List α} (h : ∀ a ∈ as, (f a).Gives Q) :
    (as.mapM f).Gives fun bs => ∀ b ∈ bs, Q b := by
  induction as with
  | nil =>
    rw [List.mapM_nil]
    exact gives_pure (List.forall_mem_nil _)
  | cons a as ih =>
    rw [List.mapM_cons]
    refine (h a List.mem_cons_self).bind fun b hb => ?_
    refine (ih fun a' ha' => h a' (List.mem_cons_of_mem a ha')).bind fun bs hbs => ?_
    exact gives_pure (List.forall_mem_cons.mpr ⟨hb, hbs⟩)

end DescriptorRead

open DescriptorRead (Gives gives_any gives_pure gives_skip gives_stop gives_self gives_ofText gives_mapM)

theorem exists_of_valueUnder? {α : Type} {key : Text} {entries : List (Text × α)} {v : α}
    (h : valueUnder? key entries = some v) : ∃ k, (k, v) ∈ entries := by
  induction entries with
  | nil => cases h
  | cons e entries ih =>
    unfold valueUnder? at h
    split at h
    · cases h
      exact ⟨e.1, List.mem_cons_self⟩
    · obtain ⟨k, hk⟩ := ih h
      exact ⟨k, List.mem_cons_of_mem e hk⟩

theorem Json.isSound_getD {entries : List (Text × Json)} (sound : ∀ e ∈ entries, e.2.IsSound) (key : Text)
    {default : Json} (hdefault : default.IsSound) : ((valueUnder? key entries).getD default).IsSound := by
  cases h : valueUnder? key entries with
  | none => exact hdefault
  | some v =>
    obtain ⟨k, hk⟩ := exists_of_valueUnder? h
    exact sound _ hk

theorem Json.isSound_field {v : Json} (hv : v.IsSound) (key : Text) : (v.field key).IsSound := by
  unfold field get?
  cases hv with
  | object keys sound => exact isSound_getD sound key .null
  | _ => exact .null

/-- The default value of a parameter is a value of its descriptor. -/
theorem Parameter.isSound_of_ofDescriptor {raw : Json} (hraw : raw.IsSound) :
    (Parameter.ofDescriptor raw).Gives fun p => p.defaultValue.IsSound := by
  cases hraw with
  | object keys sound =>
    have hdefault := Json.isSound_getD sound "default_value" (Json.isSound_getD sound "default" .null)
    unfold Parameter.ofDescriptor
    dsimp only
    split
    · split
      all_goals
        refine (gives_any _).bind fun kind _ => ?_
        refine (gives_any _).bind fun name _ => ?_
        refine (gives_any _).bind fun description _ => ?_
        exact gives_pure hdefault
    · exact gives_stop _
  | _ => exact gives_skip

/-- What a descriptor holds where the parameters of its rule are read: a list of their descriptors, or no list. -/
def Parameter.AreReadOff (v : Json) (parameters : Option (List Parameter)) : Prop :=
  ∀ ps ∈ parameters, ∃ raws, v = .list raws ∧ (raws.mapM Parameter.ofDescriptor).run = .ok (some ps)

theorem Parameter.areReadOff_of_list {v : Json} {raws : List Json} (hv : v = .list raws) :
    (some <$> raws.mapM Parameter.ofDescriptor : DescriptorRead _).Gives (Parameter.AreReadOff v) := by
  rw [map_eq_pure_bind]
  refine Gives.bind (P := fun ps => (raws.mapM Parameter.ofDescriptor).run = .ok (some ps)) (fun ps h => h) ?_
  intro ps hps
  refine gives_pure ?_
  rintro _ ⟨⟩
  exact ⟨raws, hv, hps⟩

theorem Parameter.areReadOff_none (v : Json) :
    (pure none : DescriptorRead (Option (List Parameter))).Gives (Parameter.AreReadOff v) := gives_pure nofun

/-- What a descriptor holds in each place where its rule is read off it. -/
structure Rule.IsReadOff (item : Json) (r : Rule) : Prop where
  id : descriptorId? item = some r.id
  category : Category.ofKind ((item.field "kind").orElse (item.field "category")) = .ok r.category
  severity : (if (item.field "default_severity").isTruthy then (Severity.ofRaw (item.field "default_severity")).map some
    else .ok none) = .ok r.defaultSeverity
  parameters : Parameter.AreReadOff (item.field "parameters") r.parameters
  triggering : (item.field "triggering_examples").listedTexts? = some r.triggeringExamples
  nonTriggering : ((item.field "nontriggering_examples").orElse (item.field "non_triggering_examples")).listedTexts? =
    some r.nonTriggeringExamples
  name : descriptorName? item r.id = some r.name
  description : (if (item.field "description").isTruthy then (item.field "description").asText? else some Text.empty) =
    some r.description
  documentation : (item.field "documentation").optionalText? = some r.documentationUrl
  minimum : (item.field "minimum_swift_version").optionalText? = some r.minimumToolVersion
  isOptin : ((item.get? "opt_in").getD ((item.get? "is_opt_in").getD (.bool false))).isTruthy = r.isOptin
  autocorrects : ((item.get? "correctable").getD (.bool false)).isTruthy = r.supportsAutocorrection

theorem Rule.isReadOff_of_ofDescriptor (item : Json) : (Rule.ofDescriptor item).Gives (Rule.IsReadOff item) := by
  refine gives_self.bind fun id hid => gives_ofText.bind fun category hcategory => ?_
  refine gives_ofText.bind fun severity hseverity => ?_
  dsimp only
  split
  on_goal 1 => refine (Parameter.areReadOff_of_list ‹_›).bind fun parameters hparameters => ?_
  on_goal 2 => refine (Parameter.areReadOff_none (item.field "parameters")).bind fun parameters hparameters => ?_
  all_goals
    refine gives_self.bind fun triggering htriggering => gives_self.bind fun nonTriggering hnonTriggering => ?_
    refine gives_self.bind fun name hname => gives_self.bind fun description hdescription => ?_
    refine gives_self.bind fun documentation hdocumentation => gives_self.bind fun minimum hminimum => ?_
    exact gives_pure ⟨hid, hcategory, hseverity, hparameters, htriggering, hnonTriggering, hname, hdescription,
      hdocumentation, hminimum, rfl, rfl⟩

/-- The default values of a rule are values of its descriptor. -/
theorem Rule.isSound_of_ofDescriptor {item : Json} (hitem : item.IsSound) :
    (Rule.ofDescriptor item).Gives Rule.IsSound := by
  intro r h ps hps
  obtain ⟨raws, hraws, hread⟩ := (Rule.isReadOff_of_ofDescriptor item r h).parameters ps hps
  have hfield := Json.isSound_field hitem "parameters"
  rw [hraws] at hfield
  cases hfield with
  | list sound => exact gives_mapM (fun raw hraw => Parameter.isSound_of_ofDescriptor (sound raw hraw)) ps hread

theorem isSound_of_rulesOfDescriptors {items : List Json} {rules : List Rule} (hitems : ∀ v ∈ items, v.IsSound)
    (h : rulesOfDescriptors items = .ok rules) : ∀ r ∈ rules, r.IsSound := by
  induction items generalizing rules with
  | nil =>
    cases h
    exact List.forall_mem_nil _
  | cons item items ih =>
    have hrest : ∀ rules, rulesOfDescriptors items = .ok rules → ∀ r ∈ rules, r.IsSound :=
      fun rules => ih fun v hv => hitems v (List.mem_cons_of_mem item hv)
    cases item with
    | object entries =>
      have hfirst := Rule.isSound_of_ofDescriptor (hitems _ List.mem_cons_self)
      rw [rulesOfDescriptors] at h
      obtain ⟨found, hrun, h⟩ := exists_of_bind_ok h
      obtain ⟨more, hmore, h⟩ := exists_of_bind_ok h
      cases h
      intro r hr
      rcases List.mem_append.mp hr with hr | hr
      · exact hfirst r (by rw [hrun, Option.mem_toList.mp hr])
      · exact hrest more hmore r hr
    | _ => exact hrest rules h

/-- The rules of a table have no parameters. -/
theorem isSound_of_rulesOfTable (text : List CodePoint) : ∀ r ∈ rulesOfTable text, r.IsSound := by
  intro r hr
  obtain ⟨line, -, h⟩ := List.mem_filterMap.mp hr
  obtain ⟨cells, -, h⟩ := Option.bind_eq_some_iff.mp h
  unfold Rule.ofTableRow? at h
  split at h
  · split at h
    · cases h
    · cases h
      exact nofun
  · cases h

/-- The default values of every rule in a listing are as they are read from a text. -/
theorem isSound_of_readRuleList {output : Text} {rules : List Rule} (h : readRuleList output = .ok rules) :
    ∀ r ∈ rules, r.IsSound := by
  obtain ⟨all, hall, -, rfl⟩ := readRuleList_eq_ok_iff.mp h
  have hsound : ∀ r ∈ all, r.IsSound := by
    rcases read_or_eq_of_rulesOfListing hall with ⟨items, hread, hrules⟩ | ⟨-, rfl⟩
    · cases Json.isSound_of_read (s := Text.ofList output.trimmed) hread with
      | list sound => exact isSound_of_rulesOfDescriptors sound hrules
    · exact isSound_of_rulesOfTable _
  exact fun r hr => hsound r (mem_of_mem_dropRepeatedIds hr)

end LintPreview
