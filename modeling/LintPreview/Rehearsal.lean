import LintPreview.Catalog.Basic
import LintPreview.Service.Act
import LintPreview.Tool.Process

/-!
Rehearsals: services run against a host whose lint tool and network follow a script.

* `ToolScript`, `NetworkScript`: what the tool and the network answer.
* `RehearsedTool`: a tool with a script, or the one that is found on the host.
* `Rehearsal`: the host, the catalog, the scripts, and what has been asked so far.
* `Rehearsal.answer`: the answer to an act. A call that blocks waits until its job is cancelled.
* `Rehearsal.run`: the end of a job and the rehearsal behind it.
-/

namespace LintPreview

/-- What the tool does when it is called. -/
inductive ToolAnswer where
  | text (s : Text)
  | fails (f : Failure)
  | blocks

/-- What the tool does. The answers to lint calls are used up one by one, and the last one stays. -/
structure ToolScript where
  listRules : ToolAnswer := .text "[]"
  version : ToolAnswer := .text "0.57.0"
  details : List (Text × ToolAnswer) := []
  lint : List ToolAnswer := [.text "[]"]

/-- The lint tool of a rehearsal: one that follows a script, or the one that the settings find on the host. -/
inductive RehearsedTool where
  | scripted (script : ToolScript)
  | installed (settings : ToolSettings) (searchPath : Text) (memory : Option FoundTool)

/-- A response of the network, part by part. -/
inductive ScriptedResponse where
  | fails (s : TransportStop)
  | responds (head : ResponseHead) (parts : List (Except TransportStop (List UInt8)))

/-- What the network answers, one response for each request; the last one stays. -/
abbrev NetworkScript := List ScriptedResponse

/-- A lint call: the workspace, the configuration, and the text in it. -/
structure LintCall where
  workspace : Path
  config : Path
  text : Text

/-- What has been asked so far. Of the tool, only what one with a script was asked. -/
structure Observed where
  lints : List LintCall := []
  listCalls : Nat := 0
  loadingSeen : List Bool := []
  detailsCalls : List Text := []
  mostInFlight : Nat := 0
  versionCalls : Nat := 0
  requested : List Text := []
  partsSent : Nat := 0
  reports : List (Nat × Nat × Text) := []
  records : List LogRecord := []
  scratches : List Path := []

/-- A host with a scripted tool and network. -/
structure Rehearsal where
  host : Host := {}
  catalog : Catalog := {}
  tool : RehearsedTool := .scripted {}
  network : NetworkScript := []
  body : List (Except TransportStop (List UInt8)) := []
  inFlight : List (Nat × Text) := []
  seen : Observed := {}

namespace Rehearsal

/-- The reply of the tool. -/
def toolReply : ToolAnswer → Except Stop Text
  | .text s => .ok s
  | .fails f => .error (.failed f)
  | .blocks => .error .cancelled

/-- The first of several answers, and the answers after it. -/
def nextOf {α : Type} (usual : α) : List α → α × List α
  | [] => (usual, [])
  | [a] => (a, [a])
  | a :: rest => (a, rest)

/-- What the tool answers for the details of a rule. -/
def detailsOf (t : ToolScript) (id : Text) : ToolAnswer := (valueUnder? id t.details).getD (.text "")

/-- The first details asked for that do arrive. -/
def arrival? (t : ToolScript) : List (Nat × Text) → Option (Nat × Except Failure Text)
  | [] => none
  | (place, id) :: rest =>
    match detailsOf t id with
    | .text s => some (place, .ok s)
    | .fails f => some (place, .error f)
    | .blocks => arrival? t rest

/-- What comes of asking for the next part of a body that stands for anything: the reply, how many parts were sent, and
the parts left. -/
def nextPart (decoding : Remote.ContentDecoding) :
    List (Except TransportStop (List UInt8)) →
      Except TransportStop (Option (List UInt8 × Remote.ContentDecoding)) × Nat ×
        List (Except TransportStop (List UInt8))
  | [] => (.ok none, 0, [])
  | .error s :: rest => (.error s, 0, rest)
  | .ok [] :: rest =>
    let (reply, sent, left) := nextPart decoding rest
    (reply, sent + 1, left)
  | .ok bytes :: rest =>
    match decoding.feed bytes with
    | .error fault => (.error (.broken fault.message), 1, rest)
    | .ok ([], decoding) =>
      let (reply, sent, left) := nextPart decoding rest
      (reply, sent + 1, left)
    | .ok (part, decoding) => (.ok (some (part, decoding)), 1, rest)

/-- How sending all parts ends, and how many were sent. -/
def allParts (decoding : Remote.ContentDecoding) :
    List (Except TransportStop (List UInt8)) → Except TransportStop Unit × Nat
  | [] => (.ok (), 0)
  | .error s :: _ => (.error s, 0)
  | .ok [] :: rest =>
    let (reply, sent) := allParts decoding rest
    (reply, sent + 1)
  | .ok bytes :: rest =>
    match decoding.feed bytes with
    | .error fault => (.error (.broken fault.message), 1)
    | .ok (_, decoding) =>
      let (reply, sent) := allParts decoding rest
      (reply, sent + 1)

/-- The text of a file as it is, empty if it cannot be read. -/
def fileText (t : FileTree) (path : Path) : Text :=
  match t.readBytes path with
  | .ok content => Text.ofList (Text.decodeLossy content)
  | .error _ => ""

/-- The reply of a tool with a script to a command. -/
def scriptedReply (r : Rehearsal) (script : ToolScript) : ToolCommand → Except Stop Text × Rehearsal
  | .listRules =>
    (toolReply script.listRules,
      { r with
        seen.listCalls := r.seen.listCalls + 1
        seen.loadingSeen := r.seen.loadingSeen ++ [r.catalog.isLoading] })
  | .version => (toolReply script.version, { r with seen.versionCalls := r.seen.versionCalls + 1 })
  | .details id => (toolReply (detailsOf script id), r)
  | .lint workspace config =>
    let (reply, left) := nextOf (.text "") script.lint
    let call : LintCall := ⟨workspace, config, fileText r.host.files config⟩
    (toolReply reply, { r with tool := .scripted { script with lint := left }, seen.lints := r.seen.lints ++ [call] })

/-- The reply of the tool to a command. -/
def commandReply (r : Rehearsal) (c : ToolCommand) : Except Stop Text × Rehearsal :=
  match r.tool with
  | .scripted script => r.scriptedReply script c
  | .installed settings searchPath memory =>
    let (reply, w) := Workbench.run (c.call settings) { files := r.host.files, searchPath, memory }
    (reply, { r with tool := .installed settings searchPath w.memory })

/-- The reply of the tool about the details that arrive first, with the place that they were asked for. -/
def detailsReply (r : Rehearsal) : Except Stop (Nat × Except Failure Text) × Rehearsal :=
  match r.tool, r.inFlight with
  | .scripted script, _ => ((arrival? script r.inFlight).elim (.error .cancelled) .ok, r)
  | .installed .., [] => (.error .cancelled, r)
  | .installed .., (place, id) :: _ =>
    match r.commandReply (.details id) with
    | (.ok output, r) => (.ok (place, .ok output), r)
    | (.error (.failed f), r) => (.ok (place, .error f), r)
    | (.error .cancelled, r) => (.error .cancelled, r)

/-- The answer to an act, and the rehearsal after it. -/
def answer : (act : ServiceAct) → Rehearsal → act.Reply × Rehearsal
  | .clock, r => (0, r)
  | .now, r => (r.host.moment, r)
  | .log record, r => ((), { r with seen.records := r.seen.records ++ [record] })
  | .report index total id, r => ((), { r with seen.reports := r.seen.reports ++ [(index, total, id)] })
  | .errand work, r =>
    let (result, host) := work.program.run Host.answerDisk r.host
    (result.mapError .failed, { r with host })
  | .isDirectory path, r => (r.host.files.checkDirectory path, r)
  | .makeScratch label, r =>
    match r.host.makeScratch label with
    | .ok (path, host) => (.ok path, { r with host, seen.scratches := r.seen.scratches ++ [path] })
    | .error fault => (.error (.path fault), r)
  | .removeTree path, r => ((), { r with host := r.host.removeTree path })
  | .listRules, r => r.commandReply .listRules
  | .version, r => r.commandReply .version
  | .lint workspace config, r => r.commandReply (.lint workspace config)
  | .startDetails place id, r =>
    let inFlight := r.inFlight ++ [(place, id)]
    ((), { r with
      inFlight
      seen.detailsCalls := r.seen.detailsCalls ++ [id]
      seen.mostInFlight := max r.seen.mostInFlight inFlight.length })
  | .awaitDetails, r =>
    match r.detailsReply with
    | (.ok (place, reply), r) => (.ok (place, reply), { r with inFlight := r.inFlight.filter (·.1 ≠ place) })
    | (.error stop, r) => (.error stop, r)
  | .send url, r =>
    let (response, left) := nextOf (.fails (.broken "")) r.network
    let r := { r with network := left, seen.requested := r.seen.requested ++ [url] }
    match response with
    | .fails s => (.error s, r)
    | .responds head parts => (.ok head, { r with body := parts })
  | .receive decoding, r =>
    let (reply, sent, left) := nextPart decoding r.body
    (reply, { r with body := left, seen.partsSent := r.seen.partsSent + sent })
  | .drain decoding, r =>
    let (reply, sent) := allParts decoding r.body
    (reply, { r with body := [], seen.partsSent := r.seen.partsSent + sent })
  | .enterLoad, r => (.ok (), { r with catalog.isLoading := true })
  | .leaveLoad, r => ((), { r with catalog.isLoading := false, inFlight := [] })
  | .putRules rules, r => ((), { r with catalog := r.catalog.replace rules })
  | .rules, r => (r.catalog.rules, r)

/-- The end of a job, and the rehearsal behind it. -/
def run {α : Type} (job : Job α) (r : Rehearsal) : Except Stop α × Rehearsal := Program.run answer job r

/-- Several jobs one after the other, as those that wait for their turn are. -/
def runAll {α : Type} : List (Job α) → Rehearsal → List (Except Stop α) × Rehearsal
  | [], r => ([], r)
  | job :: rest, r =>
    let (e, r) := run job r
    let (es, r) := runAll rest r
    (e :: es, r)

end Rehearsal

end LintPreview
