import LintPreview.Document
import LintPreview.Path

/-!
Overlays: a configuration with one rule switched on.

* `Document.enable`: the overlay of a configuration for a rule.
* `Document.isEnabled`: whether a configuration leaves a rule switched on. A rule can be off in four ways: it is
  disabled, it is missing from the only rules, it is an opt-in rule that is not opted in, or its own block says so.
* `mergeExclusions`: the excluded paths with the default ones behind them.
-/

namespace LintPreview

/-- The keys of a configuration that hold lists. -/
inductive ListKey where
  | disabled
  | optIn
  | only
  | excluded
deriving DecidableEq, Repr

/-- The text of a key. -/
def ListKey.text : ListKey → Text
  | .disabled => "disabled_rules"
  | .optIn => "opt_in_rules"
  | .only => "only_rules"
  | .excluded => "excluded"

/-- All list keys, in the order in which they are checked. -/
def ListKey.all : List ListKey := [.disabled, .optIn, .only, .excluded]

/-- Build artifacts, dependency caches and metadata directories, which are never linted. -/
def defaultExclusions : List Text :=
  [".build", "DerivedData", ".git", "Pods", "Carthage", ".swiftpm", "node_modules", "Build"]

/-- Existing exclusions first, then each default one that is not among them. -/
def mergeExclusions (existing : List Text) : List Text :=
  existing ++ defaultExclusions.filter fun d => !existing.contains d

/-- What stands where a list of exclusions belongs lists nothing, or holds a value that cannot be compared. -/
structure NotComparable where
  kindName : Text
deriving DecidableEq, Repr

/-- The values that a JSON value lists. -/
def listedValues : Json → Except NotComparable (List Json)
  | .null => .ok []
  | .list items => .ok items
  | .text s => .ok (s.toList.map fun c => .text (Text.ofList [c]))
  | .object entries => .ok (entries.map fun e => .text e.1)
  | v => if v.isTruthy then .error ⟨v.kindName⟩ else .ok []

/-- Existing values first, none of them a list or an object, then each default exclusion that is not among them. -/
def mergeExclusionValues (existing : Json) : Except NotComparable (List Json) := do
  let values ← listedValues existing
  match values.find? Json.isCollection with
  | some v => throw ⟨v.kindName⟩
  | none =>
    let texts := values.filterMap Json.asText?
    return values ++ (defaultExclusions.filter fun d => !texts.contains d).map .text

/-- An exclusion as seen from anywhere: a relative one is read from the workspace. -/
def anchorExclusion (workspace : Option Text) (e : Text) : Text :=
  match workspace with
  | none => e
  | some w =>
    let p := Path.ofString e
    if p.isAbsolute then e else ((Path.ofString w).join p).toString

/-- A value that lists nothing stands where a list belongs. -/
structure NotListed where
  kindName : Text
deriving DecidableEq, Repr

namespace Document

/-- The texts that a value lists: none for null, itself for a text, one for every item, key or byte. -/
def listed : Document → Except NotListed (List Text)
  | .null => .ok []
  | .text s => .ok [s]
  | .list _ items => .ok (items.map display)
  | .map _ entries => .ok (entries.map fun e => e.1.display)
  | .set _ items => .ok (items.map display)
  | .bytes bs => .ok (bs.map fun b => Text.ofNat b.toNat)
  | d => .error ⟨d.kindName⟩

/-- The texts listed under a key; none if the key is missing. -/
def listedAt (d : Document) (key : ListKey) : Except NotListed (List Text) :=
  ((d.get? key.text).getD .null).listed

mutual

/-- A label greater than all in a document. -/
def freshLabel : Document → Nat
  | .moment l _ => l + 1
  | .list l items => max (l + 1) (freshOfItems items)
  | .map l entries => max (l + 1) (freshOfEntries entries)
  | .set l items => max (l + 1) (freshOfItems items)
  | .enclosing l => l + 1
  | _ => 0

/-- A label greater than all in items. -/
def freshOfItems : List Document → Nat
  | [] => 0
  | d :: rest => max (freshLabel d) (freshOfItems rest)

/-- A label greater than all in entries. -/
def freshOfEntries : List (Document × Document) → Nat
  | [] => 0
  | (k, v) :: rest => max (max (freshLabel k) (freshLabel v)) (freshOfEntries rest)

end

mutual

/-- A document in which the mapping with a label says that it is enabled, wherever it stands. -/
def switchOn (label : Nat) : Document → Document
  | .list l items => .list l (switchOnItems label items)
  | .map l entries =>
    let inside := switchOnEntries label entries
    .map l (if l = label then putKey (.text "enabled") (.bool true) inside else inside)
  | d => d

/-- Items with the mapping switched on. -/
def switchOnItems (label : Nat) : List Document → List Document
  | [] => []
  | d :: rest => switchOn label d :: switchOnItems label rest

/-- Entries with the mapping switched on. -/
def switchOnEntries (label : Nat) : List (Document × Document) → List (Document × Document)
  | [] => []
  | (k, v) :: rest => (k, switchOn label v) :: switchOnEntries label rest

end

/-- Whether a value is a block that switches its rule off. -/
def isSwitchedOff (d : Document) : Bool :=
  match d.get? "enabled" with
  | some (.bool false) => true
  | _ => false

/-- The block of a rule: the value under its id. An alias that leads back to a collection around it can only mean the
configuration itself. -/
def block? (d : Document) (rule : Text) : Option Document :=
  match d.get? rule with
  | some (.enclosing _) => some d
  | found => found

/-- A list of texts as a document. -/
def ofTexts (label : Nat) (texts : List Text) : Document := .list label (texts.map .text)

/-- A list with an item put at its end unless it is there. -/
def withItem (item : Text) (texts : List Text) : List Text :=
  if texts.contains item then texts else texts ++ [item]

/-- Takes a rule off the list of disabled ones; an empty list is left out. -/
def dropDisabled (rule : Text) (label : Nat) (d : Document) : Except NotListed Document := do
  if d.has ListKey.disabled.text then
    match (← d.listedAt .disabled).filter (· ≠ rule) with
    | [] => return d.erase ListKey.disabled.text
    | left => return d.put ListKey.disabled.text (ofTexts label left)
  else return d

/-- Puts an opt-in rule on the list of those that are opted in. -/
def addOptIn (rule : Text) (isOptin : Bool) (label : Nat) (d : Document) : Except NotListed Document := do
  if isOptin then return d.put ListKey.optIn.text (ofTexts label (withItem rule (← d.listedAt .optIn)))
  else return d

/-- Puts a rule on the list of the only rules, if there is one. -/
def addOnly (rule : Text) (label : Nat) (d : Document) : Except NotListed Document := do
  if d.has ListKey.only.text then
    return d.put ListKey.only.text (ofTexts label (withItem rule (← d.listedAt .only)))
  else return d

/-- Switches the block of a rule on, if it is a mapping that switches the rule off. -/
def switchBlockOn (rule : Text) (d : Document) : Document :=
  match d.block? rule with
  | some (.map l entries) => if (Document.map l entries).isSwitchedOff then d.switchOn l else d
  | _ => d

/-- Puts the excluded paths with the default ones. -/
def addExclusions (workspace : Option Text) (label : Nat) (d : Document) : Except NotListed Document := do
  let all := (mergeExclusions (← d.listedAt .excluded)).map (anchorExclusion workspace)
  return d.put ListKey.excluded.text (ofTexts label all)

/-- The configuration with a rule switched on. Rule ids are compared as they are. -/
def enable (d : Document) (rule : Text) (isOptin : Bool) (workspace : Option Text) (exclude : Bool) :
    Except NotListed Document := do
  let label := d.freshLabel
  let d ← d.dropDisabled rule label
  let d ← d.addOptIn rule isOptin (label + 1)
  let d ← d.addOnly rule (label + 2)
  let d := d.switchBlockOn rule
  if exclude then d.addExclusions workspace (label + 3) else return d

/-- Whether a configuration leaves a rule switched on. -/
def isEnabled (d : Document) (rule : Text) (isOptin : Bool) : Except NotListed Bool := do
  if (← d.listedAt .disabled).contains rule then return false
  if d.has ListKey.only.text then
    if !(← d.listedAt .only).contains rule then return false
  if isOptin then
    if !(← d.listedAt .optIn).contains rule then return false
  return !((d.block? rule).any isSwitchedOff)

end Document

end LintPreview
