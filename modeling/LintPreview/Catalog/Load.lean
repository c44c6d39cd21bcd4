import LintPreview.Rule.Details
import LintPreview.Service.Notice
import LintPreview.Settings

/-!
Loading the catalog: from the lint tool, or from the last snapshot when the tool gives no rules.

* `fetchDetails`: rules with their details asked for, at most so many at a time; answers come in any order.
* `fetchRules`: the rules of the lint tool and its version.
* `loadRules`: one load of the catalog. Loads take turns. What the tool gives always counts, and is kept as a
  snapshot as far as that can be written; only when it gives nothing the last snapshot is read.
-/

namespace LintPreview

/-- A rule waiting for its details, with its place in the list. -/
abbrev PlacedRule := Nat × Rule

/-- Rules with their places. -/
def placed (n : Nat) : List Rule → List PlacedRule
  | [] => []
  | r :: rest => (n, r) :: placed (n + 1) rest

/-- The rules whose details are asked for: those without any, no more than the limit if it is positive. -/
def pendingRules (limit : Int) (rules : List Rule) : List PlacedRule :=
  let pending := (placed 0 rules).filter (·.2.needsDetails)
  if 0 < limit then pending.take limit.toNat else pending

/-- How many details may be asked for at a time. -/
def detailsCapacity (concurrency : Int) : Nat := max 1 concurrency.toNat

/-- The rule with what an answer tells of it. A failure of the tool tells nothing; any other failure counts. -/
def detailed (r : Rule) : Except Failure Text → Job Rule
  | .ok output => return r.enrich (readDetails output)
  | .error f =>
    if f.isOfTool then do
      Job.announce (.detailsMissing r.id f.message)
      return r
    else Job.fail f

/-- A rule out of those asked for, by its place, and the others; an unknown place stands for the first one. -/
def takeFlight (place : Nat) : List PlacedRule → Option (PlacedRule × List PlacedRule)
  | [] => none
  | p :: rest =>
    match (p :: rest).find? (·.1 = place) with
    | some q => some (q, (p :: rest).filter (·.1 ≠ place))
    | none => some (p, rest)

/-- Asks for details until none are missing: starts as long as there is capacity, then waits for any answer. -/
def fetchDetailsFrom (capacity : Nat) :
    (fuel : Nat) → (waiting inFlight : List PlacedRule) → (rules : List Rule) → Job (List Rule)
  | 0, _, _, rules => return rules
  | fuel + 1, waiting, inFlight, rules =>
    match waiting, decide (inFlight.length < capacity) with
    | next :: rest, true => do
      Job.startDetails next.1 next.2.id
      fetchDetailsFrom capacity fuel rest (inFlight ++ [next]) rules
    | _, _ =>
      if inFlight.isEmpty then return rules
      else do
        let (place, answer) ← Job.awaitDetails
        match takeFlight place inFlight with
        | none => return rules
        | some (p, others) => do
          let r ← detailed p.2 answer
          fetchDetailsFrom capacity fuel waiting others (rules.set p.1 r)

/-- Rules with their details. -/
def fetchDetails (settings : ToolSettings) (rules : List Rule) : Job (List Rule) :=
  let pending := pendingRules settings.detailsLimit rules
  fetchDetailsFrom (detailsCapacity settings.detailsConcurrency) (2 * pending.length) pending [] rules

/-- The version of the tool, if it tells one. -/
def fetchVersion : Job (Option Text) := do
  match ← Job.version.outcome with
  | .ok text => return if text.isEmpty then none else some text
  | .error (.failed f) =>
    if f.isOfTool then do
      Job.announce (.versionMissing f.message)
      return none
    else Job.fail f
  | .error .cancelled => throw .cancelled

/-- The rules of the lint tool, and its version. -/
def fetchRules (settings : ToolSettings) : Job (List Rule × Option Text) := do
  let output ← Job.listRules
  let rules ← Job.ofResult ((readRuleList output).mapError .listing)
  let rules ← fetchDetails settings rules
  return (rules, ← fetchVersion)

/-- Keeps rules as a snapshot; a failure of that is only told. -/
def keepSnapshot (store : Store) (rules : List Rule) (toolVersion : Option Text) : Job Unit := do
  match ← (Job.errand (.saveRules store rules toolVersion)).outcome with
  | .ok _ => return ()
  | .error (.failed f) => Job.announce (.snapshotFailed store.file.toString f.message)
  | .error .cancelled => throw .cancelled

/-- How a catalog is loaded. -/
structure Loader where
  tool : ToolSettings := {}
  store : Store
  useCache : Bool := true

namespace Loader

/-- The rules of the last snapshot, after the lint tool gave none. -/
def fallBack (l : Loader) (live : Failure) : Job (List Rule) := do
  Job.announce (.sourceFailed "live" live.message)
  if !l.useCache then Job.fail (.catalogUnavailable [("live", live)])
  else match ← (Job.errand (.loadRules l.store)).outcome with
    | .ok rules => return rules
    | .error (.failed cache) => do
      Job.announce (.sourceFailed "cache" cache.message)
      Job.fail (.catalogUnavailable [("live", live), ("cache", cache)])
    | .error .cancelled => throw .cancelled

/-- The load itself, when its turn has come. -/
def loadInTurn (l : Loader) : Job (List Rule) := do
  match ← (fetchRules l.tool).outcome with
  | .ok (rules, toolVersion) => do
    Job.putRules rules
    Job.announce (.loaded rules.length toolVersion)
    if l.useCache then keepSnapshot l.store rules toolVersion
    Job.rules
  | .error (.failed live) => do
    Job.putRules (← l.fallBack live)
    Job.rules
  | .error .cancelled => throw .cancelled

/-- One load of the catalog, with the rules that it brings. -/
def loadRules (l : Loader) : Job (List Rule) := do
  Job.enterLoad
  l.loadInTurn.ensuring Job.leaveLoad

end Loader

end LintPreview
