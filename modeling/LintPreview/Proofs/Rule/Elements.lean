import LintPreview.Proofs.Outcome
import LintPreview.Rule.Listing
import Mathlib.Data.List.ReduceOption

/-!
# The elements of a JSON listing

* `Rule.ofElement?`: the rule that an element of the array describes, if it describes one.
* `Json.StopsListing`: the elements that are not passed over but stop the whole list, each with its fault.
* `Rule.ofElement?_eq_error_iff`: reading an element fails for exactly these.
* `rulesOfDescriptors_eq_error_iff`: a list fails at its first element that stops it; `rulesOfDescriptors_append_cons`
  says that an element which describes no rule leaves no trace.
-/

namespace LintPreview

/-! ### Steps of reading -/

namespace DescriptorRead

variable {α β : Type} {x : DescriptorRead α} {f : α → DescriptorRead β} {fault : DescriptorFault}

theorem run_bind_eq_error_iff : (x >>= f).run = .error fault ↔
    x.run = .error fault ∨ ∃ a, x.run = .ok (some a) ∧ (f a).run = .error fault := by
  rw [OptionT.run_bind]
  cases hrun : x.run with
  | error e => simp [bind, Except.bind, Option.elimM]
  | ok o => cases o <;> simp [bind, Except.bind, Option.elimM, pure, Except.pure]

theorem run_ofOption_bind_eq_error_iff {o : Option α} :
    (ofOption o >>= f).run = .error fault ↔ ∃ a, o = some a ∧ (f a).run = .error fault := by
  rw [run_bind_eq_error_iff]
  constructor
  · rintro (h | ⟨a, ha, h⟩)
    · cases h
    · exact ⟨a, Except.ok.inj ha, h⟩
  · rintro ⟨a, rfl, h⟩
    exact .inr ⟨a, rfl, h⟩

/-- Reading never stops a list. -/
def NeverStops (x : DescriptorRead α) : Prop := ∀ fault, x.run ≠ .error fault

theorem neverStops_pure (a : α) : NeverStops (pure a : DescriptorRead α) := nofun

theorem neverStops_skip : NeverStops (skip : DescriptorRead α) := nofun

theorem neverStops_ofOption (o : Option α) : (ofOption o).NeverStops := nofun

theorem NeverStops.bind (hx : x.NeverStops) (hf : ∀ a, (f a).NeverStops) : (x >>= f).NeverStops := by
  intro fault h
  rcases run_bind_eq_error_iff.mp h with h | ⟨a, -, h⟩
  · exact hx fault h
  · exact hf a fault h

theorem run_bind_eq_error_iff_of_neverStops (hf : ∀ a, (f a).NeverStops) :
    (x >>= f).run = .error fault ↔ x.run = .error fault := by
  rw [run_bind_eq_error_iff]
  exact ⟨fun h => h.resolve_right fun ⟨a, _, h⟩ => hf a fault h, .inl⟩

/-- A list of readings fails where the first of them does; those before have given something. -/
theorem run_mapM_eq_error_iff {f : α → DescriptorRead β} {as : List α} : (as.mapM f).run = .error fault ↔
    ∃ before a after, as = before ++ a :: after ∧ (∀ b ∈ before, ∃ v, (f b).run = .ok (some v)) ∧
      (f a).run = .error fault := by
  induction as with
  | nil =>
    rw [List.mapM_nil]
    constructor
    · exact fun h => absurd h (neverStops_pure _ fault)
    · rintro ⟨before, a, after, h, -⟩
      cases before <;> cases h
  | cons a as ih =>
    rw [List.mapM_cons, run_bind_eq_error_iff]
    constructor
    · rintro (h | ⟨v, hv, h⟩)
      · exact ⟨[], a, as, rfl, List.forall_mem_nil _, h⟩
      · rcases run_bind_eq_error_iff.mp h with h | ⟨vs, -, h⟩
        · obtain ⟨before, b, after, rfl, hbefore, hb⟩ := ih.mp h
          exact ⟨a :: before, b, after, rfl, List.forall_mem_cons.mpr ⟨⟨v, hv⟩, hbefore⟩, hb⟩
        · exact absurd h (neverStops_pure _ fault)
    · rintro ⟨before, b, after, heq, hbefore, hb⟩
      cases before with
      | nil =>
        cases heq
        exact .inl hb
      | cons a' before =>
        cases heq
        obtain ⟨⟨v, hv⟩, hbefore⟩ := List.forall_mem_cons.mp hbefore
        exact .inr ⟨v, hv, run_bind_eq_error_iff.mpr (.inl (ih.mpr ⟨before, b, after, rfl, hbefore, hb⟩))⟩

end DescriptorRead

open DescriptorRead (NeverStops neverStops_pure neverStops_skip neverStops_ofOption run_bind_eq_error_iff
  run_bind_eq_error_iff_of_neverStops
  run_ofOption_bind_eq_error_iff run_mapM_eq_error_iff)

/-! ### Fields that are to be texts -/

namespace Json

/-- A value that is given, where a text is to stand, and is none. -/
structure IsGivenAsOther (v : Json) : Prop where
  given : v.isTruthy = true
  other : v.asText? = none

/-- The kind that an element names, under either key. -/
def kindField (item : Json) : Json := (item.field "kind").orElse (item.field "category")

end Json

/-- A field is read leniently: what is not given counts as something, and only what is given and no text is a fault. -/
structure ReadsText {α : Type} (read : Json → Except NotText α) : Prop where
  missing : ∀ v : Json, v.isTruthy = false → ∃ a, read v = .ok a
  text : ∀ s, ∃ a, read (.text s) = .ok a
  other : ∀ v : Json, v.IsGivenAsOther → read v = .error ⟨v.kindName⟩

theorem ReadsText.eq_error_iff {α : Type} {read : Json → Except NotText α} (h : ReadsText read) {v : Json}
    {e : NotText} :
    read v = .error e ↔ v.IsGivenAsOther ∧ e = ⟨v.kindName⟩ := by
  constructor
  · intro he
    have hgiven : v.isTruthy = true := by
      by_contra hnot
      obtain ⟨a, ha⟩ := h.missing v (Bool.eq_false_iff.mpr hnot)
      rw [ha] at he
      cases he
    have hother : v.asText? = none := by
      cases v with
      | text s =>
        obtain ⟨a, ha⟩ := h.text s
        rw [ha] at he
        cases he
      | _ => rfl
    have hv := h.other v ⟨hgiven, hother⟩
    rw [hv] at he
    exact ⟨⟨hgiven, hother⟩, (Except.error.inj he).symm⟩
  · rintro ⟨hv, rfl⟩
    exact h.other v hv

theorem ReadsText.exists_ok {α : Type} {read : Json → Except NotText α} (h : ReadsText read) {v : Json}
    (hv : ¬ v.IsGivenAsOther) : ∃ a, read v = .ok a := by
  cases hread : read v with
  | error e => exact absurd (h.eq_error_iff.mp hread).1 hv
  | ok a => exact ⟨a, rfl⟩

/-- Behind a field that is to be a text, reading stops there or goes on. -/
theorem ReadsText.run_bind_eq_error_iff {α β : Type} {read : Json → Except NotText α} (h : ReadsText read) {v : Json}
    {f : α → DescriptorRead β} {fault : DescriptorFault} : (DescriptorRead.ofText (read v) >>= f).run = .error fault ↔
      (v.IsGivenAsOther ∧ fault = .notText ⟨v.kindName⟩) ∨
        (¬ v.IsGivenAsOther ∧ ∃ a, (f a).run = .error fault ∧ read v = .ok a) := by
  rw [DescriptorRead.run_bind_eq_error_iff]
  cases hread : read v with
  | error e =>
    obtain ⟨hv, rfl⟩ := h.eq_error_iff.mp hread
    constructor
    · rintro (he | ⟨a, ha, -⟩)
      · cases he
        exact .inl ⟨hv, rfl⟩
      · cases ha
    · rintro (⟨-, rfl⟩ | ⟨hnot, -⟩)
      · exact .inl rfl
      · exact absurd hv hnot
  | ok a =>
    have hnot : ¬ v.IsGivenAsOther := by
      intro hv
      have := h.other v hv
      rw [hread] at this
      cases this
    constructor
    · rintro (he | ⟨b, hb, hf⟩)
      · cases he
      · cases hb
        exact .inr ⟨hnot, a, hf, rfl⟩
    · rintro (⟨hv, -⟩ | ⟨-, b, hf, hb⟩)
      · exact absurd hv hnot
      · cases hb
        exact .inr ⟨a, rfl, hf⟩

theorem Category.readsText_ofKind : ReadsText Category.ofKind where
  missing v hv := ⟨_, if_pos (by rw [hv]; rfl)⟩
  text s := by unfold ofKind; split <;> exact ⟨_, rfl⟩
  other v hv := by
    unfold ofKind
    rw [if_neg (by simp [hv.given])]
    cases v with
    | text s => cases hv.other
    | _ => rfl

theorem Severity.readsText_ofRaw : ReadsText Severity.ofRaw where
  missing v hv := ⟨_, if_pos (by rw [hv]; rfl)⟩
  text s := by unfold ofRaw; split <;> exact ⟨_, rfl⟩
  other v hv := by
    unfold ofRaw
    rw [if_neg (by simp [hv.given])]
    cases v with
    | text s => cases hv.other
    | _ => rfl

/-! ### Parameters -/

namespace Json

/-- An object without a name, where a parameter is to be. -/
def IsNameless : Json → Prop
  | .object entries => valueUnder? "name" entries = none
  | _ => False

/-- A parameter can be read off the value. -/
def DescribesParameter (raw : Json) : Prop := ∃ p, (Parameter.ofDescriptor raw).run = .ok (some p)

end Json

/-- A parameter with a name is read or passed over. -/
theorem Parameter.neverStops_of_named {entries : List (Text × Json)} {name : Json}
    (h : valueUnder? "name" entries = some name) : NeverStops (Parameter.ofDescriptor (.object entries)) := by
  have hrest : ∀ kind, NeverStops (do
      let default := (valueUnder? "default_value" entries).getD ((valueUnder? "default" entries).getD .null)
      let name ← DescriptorRead.ofOption name.asText?
      let description ← DescriptorRead.ofOption ((valueUnder? "description" entries).getD .null).optionalText?
      pure { name := name, kind := kind, defaultValue := default, description := description : Parameter }) := by
    intro kind
    refine (neverStops_ofOption _).bind fun name => ?_
    exact (neverStops_ofOption _).bind fun description => neverStops_pure _
  unfold Parameter.ofDescriptor
  dsimp only
  rw [h]
  dsimp only
  split
  · exact (neverStops_pure _).bind hrest
  · exact (neverStops_ofOption _).bind hrest
  · exact neverStops_skip.bind hrest

/-- Only a parameter without a name stops a list. -/
theorem Parameter.ofDescriptor_eq_error_iff {raw : Json} {fault : DescriptorFault} :
    (Parameter.ofDescriptor raw).run = .error fault ↔ raw.IsNameless ∧ fault = .unnamedParameter := by
  cases raw with
  | object entries =>
    cases hname : valueUnder? "name" entries with
    | none =>
      have hstop : Parameter.ofDescriptor (.object entries) = DescriptorRead.stop .unnamedParameter := by
        unfold Parameter.ofDescriptor
        dsimp only
        rw [hname]
      rw [hstop]
      constructor
      · rintro ⟨⟩
        exact ⟨hname, rfl⟩
      · rintro ⟨-, rfl⟩
        rfl
    | some name =>
      constructor
      · exact fun h => absurd h (Parameter.neverStops_of_named hname fault)
      · rintro ⟨hnone, -⟩
        exact absurd (hname.symm.trans hnone) (Option.some_ne_none name)
  | _ =>
    constructor
    · exact fun h => absurd h (neverStops_skip fault)
    · exact fun h => h.1.elim

/-! ### Elements -/

/-- The rule that an element of a listing describes; what is no object describes none. -/
def Rule.ofElement? : Json → Except DescriptorFault (Option Rule)
  | .object entries => (Rule.ofDescriptor (.object entries)).run
  | _ => .ok none

namespace Json

/-- An element that stops the listing, and its fault. The kind is looked at first, then the severity, then the
parameters one by one; all of this only where there is an identifier. -/
inductive StopsListing (item : Json) : DescriptorFault → Prop where
  | kind {id : Text} (hasId : descriptorId? item = some id) (kind : item.kindField.IsGivenAsOther) :
      StopsListing item (.notText ⟨item.kindField.kindName⟩)
  | severity {id : Text} (hasId : descriptorId? item = some id) (kind : ¬ item.kindField.IsGivenAsOther)
      (severity : (item.field "default_severity").IsGivenAsOther) :
      StopsListing item (.notText ⟨(item.field "default_severity").kindName⟩)
  | parameter {id : Text} {before after : List Json} {raw : Json} (hasId : descriptorId? item = some id)
      (kind : ¬ item.kindField.IsGivenAsOther) (severity : ¬ (item.field "default_severity").IsGivenAsOther)
      (parameters : item.field "parameters" = .list (before ++ raw :: after))
      (described : ∀ p ∈ before, p.DescribesParameter) (nameless : raw.IsNameless) :
      StopsListing item .unnamedParameter

end Json

/-- The severity of a descriptor, which has none if none is given. -/
theorem Severity.readsText_option : ReadsText fun raw : Json =>
    if raw.isTruthy then (Severity.ofRaw raw).map some else .ok none where
  missing v hv := ⟨none, if_neg (by simp [hv])⟩
  text s := by
    obtain ⟨a, ha⟩ := Severity.readsText_ofRaw.text s
    rw [ha]
    split <;> exact ⟨_, rfl⟩
  other v hv := by
    rw [if_pos hv.given, Severity.readsText_ofRaw.other v hv]
    rfl

theorem Json.run_mapM_parameters_eq_error_iff {raws : List Json} {fault : DescriptorFault} :
    (some <$> raws.mapM Parameter.ofDescriptor : DescriptorRead _).run = .error fault ↔
      fault = .unnamedParameter ∧ ∃ before raw after, raws = before ++ raw :: after ∧
        (∀ p ∈ before, p.DescribesParameter) ∧ raw.IsNameless := by
  rw [map_eq_pure_bind, run_bind_eq_error_iff_of_neverStops fun _ => neverStops_pure _, run_mapM_eq_error_iff]
  simp only [Parameter.ofDescriptor_eq_error_iff]
  constructor
  · rintro ⟨before, raw, after, heq, hbefore, hraw, rfl⟩
    exact ⟨rfl, before, raw, after, heq, hbefore, hraw⟩
  · rintro ⟨rfl, before, raw, after, heq, hbefore, hraw⟩
    exact ⟨before, raw, after, heq, hbefore, hraw, rfl⟩

/-- A descriptor stops a listing if and only if reading it fails. -/
theorem Rule.ofDescriptor_eq_error_iff {item : Json} {fault : DescriptorFault} :
    (Rule.ofDescriptor item).run = .error fault ↔ item.StopsListing fault := by
  unfold Rule.ofDescriptor
  rw [run_ofOption_bind_eq_error_iff]
  simp only [Category.readsText_ofKind.run_bind_eq_error_iff, Severity.readsText_option.run_bind_eq_error_iff]
  constructor
  · rintro ⟨id, hid, ⟨hkind, rfl⟩ | ⟨hkind, category, ⟨hseverity, rfl⟩ | ⟨hseverity, severity, hrun, -⟩, -⟩⟩
    · exact .kind hid hkind
    · exact .severity hid hkind hseverity
    · split at hrun
      · rename_i raws hraws
        rw [run_bind_eq_error_iff_of_neverStops, Json.run_mapM_parameters_eq_error_iff] at hrun
        · obtain ⟨rfl, before, raw, after, rfl, hbefore, hraw⟩ := hrun
          exact .parameter hid hkind hseverity hraws hbefore hraw
        · intro parameters
          iterate 6 refine (neverStops_ofOption _).bind fun _ => ?_
          exact neverStops_pure _
      · refine absurd hrun (NeverStops.bind (neverStops_pure _) (fun parameters => ?_) fault)
        iterate 6 refine (neverStops_ofOption _).bind fun _ => ?_
        exact neverStops_pure _
  · rintro (⟨hid, hkind⟩ | ⟨hid, hkind, hseverity⟩ | ⟨hid, hkind, hseverity, hparameters, hbefore, hraw⟩)
    · exact ⟨_, hid, .inl ⟨hkind, rfl⟩⟩
    · obtain ⟨category, hcategory⟩ := Category.readsText_ofKind.exists_ok hkind
      exact ⟨_, hid, .inr ⟨hkind, category, .inl ⟨hseverity, rfl⟩, hcategory⟩⟩
    · obtain ⟨category, hcategory⟩ := Category.readsText_ofKind.exists_ok hkind
      obtain ⟨severity, hread⟩ := Severity.readsText_option.exists_ok hseverity
      refine ⟨_, hid, .inr ⟨hkind, category, .inr ⟨hseverity, severity, ?_, hread⟩, hcategory⟩⟩
      rw [hparameters]
      exact run_bind_eq_error_iff.mpr
        (.inl (Json.run_mapM_parameters_eq_error_iff.mpr ⟨rfl, _, _, _, rfl, hbefore, hraw⟩))

/-- Reading an element fails if and only if the element stops the listing. -/
theorem Rule.ofElement?_eq_error_iff {item : Json} {fault : DescriptorFault} :
    Rule.ofElement? item = .error fault ↔ item.StopsListing fault := by
  cases item with
  | object entries => exact Rule.ofDescriptor_eq_error_iff
  | _ =>
    constructor
    · nofun
    · rintro (⟨hid, -⟩ | ⟨hid, -, -⟩ | ⟨hid, -, -, -, -, -⟩) <;> cases hid

/-! ### Arrays -/

/-- An array gives what its elements describe, in order. -/
theorem rulesOfDescriptors_eq (items : List Json) :
    rulesOfDescriptors items = (items.mapM Rule.ofElement?).map List.reduceOption := by
  induction items with
  | nil => rfl
  | cons item items ih =>
    have hcons : rulesOfDescriptors (item :: items) = do
        let found ← Rule.ofElement? item
        let rules ← rulesOfDescriptors items
        return found.toList ++ rules := by
      cases item <;> simp [rulesOfDescriptors, Rule.ofElement?, bind, Except.bind, pure, Except.pure] <;>
        cases rulesOfDescriptors items <;> rfl
    rw [hcons, ih, List.mapM_cons]
    cases Rule.ofElement? item with
    | error e => rfl
    | ok found =>
      cases items.mapM Rule.ofElement? with
      | error e => rfl
      | ok rest => cases found <;> rfl

theorem Rule.exists_ofElement?_eq_ok_iff {item : Json} :
    (∃ found, Rule.ofElement? item = .ok found) ↔ ∀ fault, ¬ item.StopsListing fault := by
  constructor
  · rintro ⟨found, hfound⟩ fault hstops
    rw [Rule.ofElement?_eq_error_iff.mpr hstops] at hfound
    cases hfound
  · intro h
    cases hread : Rule.ofElement? item with
    | error fault => exact absurd (Rule.ofElement?_eq_error_iff.mp hread) (h fault)
    | ok found => exact ⟨found, rfl⟩

/-- An array fails at the first of its elements that stops the listing. -/
theorem rulesOfDescriptors_eq_error_iff {items : List Json} {fault : DescriptorFault} :
    rulesOfDescriptors items = .error fault ↔ ∃ before item after, items = before ++ item :: after ∧
      (∀ v ∈ before, ∀ f, ¬ v.StopsListing f) ∧ item.StopsListing fault := by
  have hmap : rulesOfDescriptors items = .error fault ↔ items.mapM Rule.ofElement? = .error fault := by
    rw [rulesOfDescriptors_eq]
    cases items.mapM Rule.ofElement? <;> simp [Except.map]
  rw [hmap, mapM_eq_error_iff]
  simp only [Rule.ofElement?_eq_error_iff, Rule.exists_ofElement?_eq_ok_iff]

/-- An element that describes no rule and does not stop the listing leaves no trace. -/
theorem rulesOfDescriptors_append_cons {item : Json} (h : Rule.ofElement? item = .ok none) (before after : List Json) :
    rulesOfDescriptors (before ++ item :: after) = rulesOfDescriptors (before ++ after) := by
  simp only [rulesOfDescriptors_eq, List.mapM_append, List.mapM_cons, h]
  cases before.mapM Rule.ofElement? with
  | error e => rfl
  | ok found =>
    cases after.mapM Rule.ofElement? with
    | error e => rfl
    | ok more =>
      simp [bind, Except.bind, pure, Except.pure, Except.map, List.reduceOption_append, List.reduceOption_cons_of_none]

end LintPreview
