import LintPreview.Rule.Basic

/-!
The catalog of rules in memory.

* `Catalog`: the rules, each id once, and the way from an id to its rule.
* `Catalog.replace`: other rules take the place of all rules at once.
* `Catalog.byCategory`: the rules grouped by category, in the order in which categories are first seen.
-/

namespace LintPreview

/-- The rules that are known, and whether a load is going on. -/
structure Catalog where
  rules : List Rule := []
  index : List (Text × Rule) := []
  isLoading : Bool := false
deriving Repr

namespace Catalog

/-- Rules by their ids; of rules with one id the first one counts. -/
def indexOf (rules : List Rule) : List (Text × Rule) := (dropRepeatedIds rules).map fun r => (r.id, r)

/-- The catalog with other rules. -/
def replace (c : Catalog) (rules : List Rule) : Catalog :=
  { c with rules := (indexOf rules).map (·.2), index := indexOf rules }

/-- The rule with an id. -/
def get? (c : Catalog) (id : Text) : Option Rule := valueUnder? id c.index

/-- A rule put into the group of its category, at its end; a new group comes last. -/
def addToGroup (r : Rule) : List (Category × List Rule) → List (Category × List Rule)
  | [] => [(r.category, [r])]
  | (c, rs) :: rest => if c = r.category then (c, rs ++ [r]) :: rest else (c, rs) :: addToGroup r rest

/-- The rules grouped by category. -/
def byCategory (c : Catalog) : List (Category × List Rule) := c.rules.foldl (fun groups r => addToGroup r groups) []

end Catalog

end LintPreview
