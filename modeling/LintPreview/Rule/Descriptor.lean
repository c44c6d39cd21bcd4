import LintPreview.Rule.Basic

/-!
Rule descriptors: the objects that the lint tool lists its rules with.

* `Rule.ofDescriptor`: the rule of a descriptor, nothing if it describes none, or the fault that stops the list.
* `rulesOfDescriptors`: the rules of a list of descriptors, in order.
-/

namespace LintPreview

/-- A fault in a descriptor that is not passed over. -/
inductive DescriptorFault where
  | notText (value : NotText)
  | unnamedParameter
deriving DecidableEq, Repr

/-- The wording of a fault. -/
def DescriptorFault.message : DescriptorFault → Text
  | .notText value => value.message
  | .unnamedParameter => "'name'"

/-- Reading a part of a descriptor: a value, nothing because the descriptor is passed over, or a fault. -/
abbrev DescriptorRead (α : Type) := OptionT (Except DescriptorFault) α

namespace DescriptorRead

/-- The descriptor is passed over. -/
def skip {α : Type} : DescriptorRead α := OptionT.mk (.ok none)

/-- The list stops here. -/
def stop {α : Type} (fault : DescriptorFault) : DescriptorRead α := OptionT.mk (.error fault)

/-- A value that may be missing, which passes the descriptor over. -/
def ofOption {α : Type} (x : Option α) : DescriptorRead α := OptionT.mk (.ok x)

/-- A value that may not be a text, which stops the list. -/
def ofText {α : Type} : Except NotText α → DescriptorRead α
  | .ok v => OptionT.mk (.ok (some v))
  | .error e => stop (.notText e)

end DescriptorRead

namespace Json

/-- The first value if it counts as given, else the second. -/
def orElse (v w : Json) : Json := if v.isTruthy then v else w

/-- A text field that may be null. -/
def optionalText? : Json → Option (Option Text)
  | .null => some none
  | .text s => some (some s)
  | _ => none

/-- What a value lists: the items of a list, the characters of a text, the keys of an object. -/
def listed? : Json → Option (List Json)
  | .list items => some items
  | .text s => some (s.toList.map fun c => .text (Text.ofList [c]))
  | .object entries => some (entries.map fun e => .text e.1)
  | _ => none

/-- The texts that a value lists; a value that is not given lists none. -/
def listedTexts? (v : Json) : Option (List Text) :=
  if v.isTruthy then v.listed?.bind (·.mapM asText?) else some []

end Json

/-- A parameter of a descriptor. -/
def Parameter.ofDescriptor (raw : Json) : DescriptorRead Parameter := do
  match raw with
  | .object entries =>
    let some name := valueUnder? "name" entries | DescriptorRead.stop .unnamedParameter
    let kind ← match valueUnder? "type" entries with
      | none => pure .string
      | some (.text key) => .ofOption (ParameterKind.ofKey? key)
      | some _ => .skip
    let default := (valueUnder? "default_value" entries).getD ((valueUnder? "default" entries).getD .null)
    let name ← .ofOption name.asText?
    let description ← .ofOption ((valueUnder? "description" entries).getD .null).optionalText?
    return { name := name, kind := kind, defaultValue := default, description := description }
  | _ => .skip

/-- The identifier of a descriptor without blanks around it, if there is one. -/
def descriptorId? (item : Json) : Option Text :=
  match (item.field "identifier").orElse (item.field "id") with
  | .text s => if (Text.trim s).isEmpty then none else some (Text.trim s)
  | _ => none

/-- The name of a descriptor, made of its identifier if it has none. -/
def descriptorName? (item : Json) (identifier : Text) : Option Text :=
  let given := item.field "name"
  if given.isTruthy then given.asText? else some (displayName identifier)

/-- The rule that a descriptor describes. -/
def Rule.ofDescriptor (item : Json) : DescriptorRead Rule := do
  let id ← .ofOption (descriptorId? item)
  let category ← .ofText (Category.ofKind ((item.field "kind").orElse (item.field "category")))
  let severity ← .ofText <|
    let raw := item.field "default_severity"
    if raw.isTruthy then (Severity.ofRaw raw).map some else .ok none
  let parameters ← match item.field "parameters" with
    | .list raws => some <$> raws.mapM Parameter.ofDescriptor
    | _ => pure none
  let triggering ← .ofOption (item.field "triggering_examples").listedTexts?
  let nonTriggering ← .ofOption
    ((item.field "nontriggering_examples").orElse (item.field "non_triggering_examples")).listedTexts?
  let name ← .ofOption (descriptorName? item id)
  let description ← .ofOption <|
    let given := item.field "description"
    if given.isTruthy then given.asText? else some Text.empty
  let documentation ← .ofOption (item.field "documentation").optionalText?
  let minimum ← .ofOption (item.field "minimum_swift_version").optionalText?
  return {
    id := id
    name := name
    description := description
    category := category
    isOptin := ((item.get? "opt_in").getD ((item.get? "is_opt_in").getD (.bool false))).isTruthy
    defaultSeverity := severity
    parameters := parameters
    triggeringExamples := triggering
    nonTriggeringExamples := nonTriggering
    documentationUrl := documentation
    supportsAutocorrection := ((item.get? "correctable").getD (.bool false)).isTruthy
    minimumToolVersion := minimum }

/-- The rules of a list of descriptors; what is no object describes none. -/
def rulesOfDescriptors : List Json → Except DescriptorFault (List Rule)
  | [] => .ok []
  | .object entries :: rest => do
    let found ← (Rule.ofDescriptor (.object entries)).run
    let rules ← rulesOfDescriptors rest
    return found.toList ++ rules
  | _ :: rest => rulesOfDescriptors rest

end LintPreview
