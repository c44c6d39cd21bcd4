import LintPreview.Catalog.Load
import LintPreview.Http.Form
import LintPreview.Http.Message
import LintPreview.Simulation.Simulate

/-!
The site: services behind requests.

* `Route.ofPath?`: the service that a path names. A line break at the end of a path is passed over.
* `Destination.find`: the route of a method and a path, or why there is none.
* `Site.serve`: what a route answers. A body is checked first, then the workspace, then the rule is looked up, and the
  simulation comes last.
* `Site.answer`: the response to a request. A failure of the services has a response of its own; any other failure
  shows nothing of itself.
-/

namespace LintPreview.Http

/-- A service that can be asked for. -/
inductive Route where
  | health
  | rules
  | rule (id : Text)
  | simulate
  | simulateBatch
  | judgeUrl
deriving DecidableEq, Repr

namespace Route

/-- The routes with a path of their own. -/
def fixedPaths : List (Text × Route) := [
  ("/api/v1/rules", .rules),
  ("/api/v1/simulations", .simulate),
  ("/api/v1/simulations/batch", .simulateBatch),
  ("/api/v1/remote-config/validate", .judgeUrl),
  ("/", .health)]

/-- What stands in front of the id of a rule. -/
def ruleStart : List CodePoint := Text.toList "/api/v1/rules/"

/-- The id of a rule in a path. -/
def ruleId? (path : List CodePoint) : Option Text :=
  if Text.startsWith ruleStart path then
    let id := path.drop ruleStart.length
    if id.isEmpty || id.contains '/' then none else some (Text.ofList id)
  else none

/-- A path without a line break at its end. -/
def withoutBreak (path : List CodePoint) : List CodePoint := if path.getLast? = some '\n' then path.dropLast else path

/-- The route that a path names. -/
def ofPath? (path : List CodePoint) : Option Route :=
  match fixedPaths.find? fun r => r.1.toList = path ∨ r.1.toList = withoutBreak path with
  | some r => some r.2
  | none => (ruleId? path).map Route.rule

/-- The method of a route. -/
def method : Route → Text
  | .health | .rules | .rule _ => "GET"
  | .simulate | .simulateBatch | .judgeUrl => "POST"

end Route

/-- Where a request leads. -/
inductive Destination where
  | route (r : Route)
  | otherMethod
  | elsewhere
  | nowhere
deriving DecidableEq, Repr

namespace Destination

/-- The path with a slash at its end taken away or added. -/
def otherEnd (path : List CodePoint) : List CodePoint :=
  if path.getLast? = some '/' then (path.reverse.dropWhile fun c : CodePoint => c == '/').reverse else path ++ [CodePoint.char '/']

/-- Where a method and a path lead. -/
def find (method : Text) (path : List CodePoint) : Destination :=
  match Route.ofPath? path with
  | some r => if r.method = method then .route r else .otherMethod
  | none =>
    if path ≠ [.char '/'] ∧ (Route.ofPath? (otherEnd path)).isSome then .elsewhere else .nowhere

end Destination

/-- The services of a site. -/
structure Site where
  loader : Loader
  simulator : Simulator := {}
  home : Text

namespace Site

/-- Loads the catalog if it has no rules. -/
def ensureRules (s : Site) : Job Unit := do
  if (← Job.rules).isEmpty then discard s.loader.loadRules

/-- The rule with an id in the catalog. -/
def findRule? (id : Text) : Job (Option Rule) := do
  return (← Job.rules).find? (·.id = id)

/-- Whether a rule is opt-in: as it is said, else as the catalog knows it. -/
def isOptin (s : Site) (id : Text) (said : Option Bool) : Job Bool := do
  match said with
  | some b => return b
  | none => do
    s.ensureRules
    return ((← findRule? id).map (·.isOptin)).getD false

/-- The rules that are opt-in. -/
def optins (s : Site) : List Text → Job (List Text)
  | [] => return []
  | id :: rest => do
    let found ← s.isOptin id none
    let others ← s.optins rest
    return if found then id :: others else others

/-- A path whose leading `~` names a home directory. -/
def expand (s : Site) (path : Text) : Job Path :=
  Job.ofResult (((Path.ofString path).expandHome s.home).mapError .home)

/-- The path of a baseline, if a form names one. -/
def basePath (s : Site) (path : Option Text) : Job (Option Path) := do
  match filled? path with
  | some p => return some (← s.expand p)
  | none => return none

/-- A response in a workspace that must be a directory. -/
def inWorkspace (s : Site) (path : Text) (respond : Path → Job Response) : Job Response := do
  let workspace ← s.expand path
  if ← Job.isDirectory workspace then respond workspace
  else return .detail 400 (.text ("Workspace '" ++ path ++ "' is not a directory."))

/-- The response that shows rules. They must be writable. -/
def showRules (rules : List Rule) (v : Json) : Job Response :=
  match rules.findSome? fun r => r.toJson.unwritable? Rule.maxLevels with
  | none => return .json 200 v.asWritten
  | some fault => Job.fail (.unwritable fault)

/-- The record of a batch result in a response. -/
def batchRecord (b : BatchResult) : Json := .object [
  ("results", .list (b.results.map SimulationResult.toJson)),
  ("failures", .object (b.failures.map fun f => (f.1, .text f.2))),
  ("safe_rules", .ofTexts (b.safeRules.map (·.ruleId))),
  ("total_duration", .float b.totalDuration)]

/-- The response with the rules of the tool. -/
def listRules (s : Site) : Job Response := do
  let rules ← s.loader.loadRules
  showRules rules (.object [("count", .int rules.length), ("rules", .list (rules.map Rule.toJson))])

/-- The response with one rule. -/
def showRule (s : Site) (id : Text) : Job Response := do
  s.ensureRules
  match ← findRule? id with
  | some r => showRules [r] r.toJson
  | none => return .detail 404 (.text ("Rule '" ++ id ++ "' not found."))

/-- The response with the result of a simulation. -/
def simulate (s : Site) (f : SimulationForm) : Job Response :=
  s.inWorkspace f.workspace fun workspace => do
    let isOptin ← s.isOptin f.rule f.isOptin
    let result ← match filled? f.baseUrl with
      | some url => s.simulator.simulateRemote f.rule workspace url isOptin
      | none => do s.simulator.simulateRule f.rule workspace (← s.basePath f.basePath) isOptin
    return .json 200 result.toJson

/-- The response with the results of several simulations. -/
def simulateBatch (s : Site) (f : BatchForm) : Job Response :=
  s.inWorkspace f.workspace fun workspace => do
    let optins ← s.optins f.rules
    let base ← s.basePath f.basePath
    let result ← s.simulator.simulateRules { workspace, base, optins } f.rules
    return .json 200 (batchRecord result)

/-- The response with the judgement on a URL. -/
def judgeUrl (f : UrlForm) : Job Response := do
  let report ← Job.ofResult ((UrlReport.ofUrl f.url).mapError fun fault => .badUrl fault.message)
  return .json 200 report.toJson

/-- The response to a form, or the refusal of the body. -/
def withForm {α : Type} (check : Json → Checked α) (body : List UInt8) (respond : α → Job Response) : Job Response :=
  match readForm check body with
  | .ok form => respond form
  | .error refused => return refused

/-- What a route answers. -/
def serve (s : Site) (body : List UInt8) : Route → Job Response
  | .health => return .json 200 (.object [("status", .text "ok"), ("message", .text "Rule Studio is running.")])
  | .rules => s.listRules
  | .rule id => s.showRule id
  | .simulate => withForm SimulationForm.check body s.simulate
  | .simulateBatch => withForm BatchForm.check body s.simulateBatch
  | .judgeUrl => withForm UrlForm.check body judgeUrl

/-- The response to a failure. -/
def failureResponse (f : Failure) : Response :=
  if f.isOwn then .json f.statusCode.1 f.body else .internalError

/-- What a request is answered at its destination. -/
def arrive (s : Site) (body : List UInt8) : Destination → Job Response
  | .route r => s.serve body r
  | .otherMethod => return .detail 405 (.text "Method Not Allowed")
  | .elsewhere => return .text 307 ""
  | .nowhere => return .detail 404 (.text "Not Found")

/-- The response to a request. A request whose target is no address fails, for it is never sent. -/
def answer (s : Site) (r : Request) : Job Response := do
  let path ← Job.ofResult ((pathOf r.target).mapError Remote.AddressFault.toFailure)
  let method := Text.ofList (r.method.toList.map CodePoint.toUpper)
  match ← (s.arrive r.body (Destination.find method path)).outcome with
  | .ok response => return if method = "HEAD" then response.headOnly else response.written
  | .error (.failed f) => return (failureResponse f).written
  | .error .cancelled => throw .cancelled

end Site

end LintPreview.Http
