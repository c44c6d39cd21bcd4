import LintPreview.Catalog.Store
import LintPreview.Remote.ContentCoding
import LintPreview.Service.Log

/-!
What the services ask, and the jobs that they do.

* `ServiceAct`: what a service asks of its surroundings: files, the lint tool, the network, the shared catalog, the
  clock and the log.
* `Errand`: work on files that is done beside the service, which goes on even when nobody waits for it any longer.
* `Job`: a program of a service. It can stop for a failure or because it is cancelled.
* `Job.ensuring`: a job after which something is done however it ends.
-/

namespace LintPreview

/-- Why a job stops without a result. -/
inductive Stop where
  | failed (f : Failure)
  | cancelled
deriving Repr

/-- Work on files that is done beside a service. -/
inductive Errand where
  | readBaseline (path : Option Path)
  | writeText (path : Path) (content : Text)
  | loadRules (store : Store)
  | saveRules (store : Store) (rules : List Rule) (toolVersion : Option Text)

/-- The kind of result of an errand. -/
abbrev Errand.Result : Errand → Type
  | .readBaseline _ => Document
  | .writeText _ _ => Unit
  | .loadRules _ => List Rule
  | .saveRules _ _ _ => Snapshot

/-- The baseline in a file, read step by step. -/
def Disk.readBaseline (path : Option Path) : Disk (Except Failure Document) := do
  match path with
  | none => return .ok emptyConfiguration
  | some p => return (baselineOfRead p (← Disk.read p)).mapError BaselineError.toFailure

/-- What an errand does. -/
def Errand.program : (e : Errand) → Disk (Except Failure e.Result)
  | .readBaseline path => Disk.readBaseline path
  | .writeText path content => do return (← Disk.write path content).mapError .path
  | .loadRules store => store.load
  | .saveRules store rules toolVersion => store.save rules toolVersion

/-- Whether a path names a directory. A name that is too long is a failure; any other path that cannot be used names
none. -/
def FileTree.checkDirectory (t : FileTree) (path : Path) : Except Failure Bool :=
  match t.lookup path with
  | .ok .directory => .ok true
  | .error (.file e) => if e.cause = .nameTooLong then .error (.path (.file e)) else .ok false
  | _ => .ok false

/-- What a service asks. Those that it waits for can be cancelled while it waits. -/
inductive ServiceAct where
  | clock
  | now
  | log (record : LogRecord)
  | report (index total : Nat) (id : Text)
  | errand (work : Errand)
  | isDirectory (path : Path)
  | makeScratch (label : Text)
  | removeTree (path : Path)
  | listRules
  | version
  | lint (workspace config : Path)
  | startDetails (index : Nat) (id : Text)
  | awaitDetails
  | send (url : Text)
  | receive (decoding : Remote.ContentDecoding)
  | drain (decoding : Remote.ContentDecoding)
  | enterLoad
  | leaveLoad
  | putRules (rules : List Rule)
  | rules

/-- What comes with the head of a response: its status, its declared length, where it redirects to, and the names of
its content codings. -/
structure ResponseHead where
  status : Nat
  declaredLength : Text := ""
  location : Option Text := none
  codings : Text := ""
deriving Repr

/-- Why the network gives no answer. -/
inductive TransportStop where
  | timedOut
  | broken (reason : Text)
  | stopped (s : Stop)
deriving Repr

/-- The kind of reply to an act. A clock counts billionths of a second. The details that arrive next carry the index
that they were started with. A response has no further part when nothing is received; a part stands for at least one
byte, and comes with the decoding of the parts behind it. -/
abbrev ServiceAct.Reply : ServiceAct → Type
  | .clock => Nat
  | .now => Moment
  | .log _ => Unit
  | .report _ _ _ => Unit
  | .errand work => Except Stop work.Result
  | .isDirectory _ => Except Failure Bool
  | .makeScratch _ => Except Failure Path
  | .removeTree _ => Unit
  | .listRules => Except Stop Text
  | .version => Except Stop Text
  | .lint _ _ => Except Stop Text
  | .startDetails _ _ => Unit
  | .awaitDetails => Except Stop (Nat × Except Failure Text)
  | .send _ => Except TransportStop ResponseHead
  | .receive _ => Except TransportStop (Option (List UInt8 × Remote.ContentDecoding))
  | .drain _ => Except TransportStop Unit
  | .enterLoad => Except Stop Unit
  | .leaveLoad => Unit
  | .putRules _ => Unit
  | .rules => List Rule

/-- A program of a service. -/
abbrev Service (α : Type) : Type := Program ServiceAct ServiceAct.Reply α

/-- A program of a service that can stop without a result. -/
abbrev Job (α : Type) : Type := ExceptT Stop (Program ServiceAct ServiceAct.Reply) α

namespace Job

variable {α β : Type}

/-- A job that fails. -/
def fail (f : Failure) : Job α := throw (.failed f)

/-- A job that has come to an end. -/
def ofEnd (e : Except Stop α) : Job α := ExceptT.mk (.done e)

/-- A job that gives a result or fails. -/
def ofResult : Except Failure α → Job α
  | .ok a => pure a
  | .error f => fail f

/-- How a job ends, without stopping for it. -/
def outcome (job : Job α) : Job (Except Stop α) := ExceptT.mk (job.run >>= fun e => .done (.ok e))

/-- A job after which something is done however it ends; the end stays the same. -/
def ensuring (job : Job α) (cleanup : Job Unit) : Job α := do
  let e ← job.outcome
  cleanup
  ofEnd e

/-! ### The single acts -/

/-- The reading of the clock. -/
def clock : Job Nat := ExceptT.mk (.ask .clock fun n => .done (.ok n))

/-- The present moment. -/
def now : Job Moment := ExceptT.mk (.ask .now fun m => .done (.ok m))

/-- Logs a record. -/
def log (r : LogRecord) : Job Unit := ExceptT.mk (.ask (.log r) fun _ => .done (.ok ()))

/-- Reports that the turn of an id has come. -/
def report (index total : Nat) (id : Text) : Job Unit :=
  ExceptT.mk (.ask (.report index total id) fun _ => .done (.ok ()))

/-- Has an errand done and waits for it. -/
def errand (work : Errand) : Job work.Result := ExceptT.mk (.ask (.errand work) .done)

/-- Whether a path names a directory. -/
def isDirectory (path : Path) : Job Bool := ExceptT.mk (.ask (.isDirectory path) fun e => .done (e.mapError .failed))

/-- Makes a directory that did not exist, whose name starts with a label. -/
def makeScratch (label : Text) : Job Path :=
  ExceptT.mk (.ask (.makeScratch label) fun e => .done (e.mapError .failed))

/-- Removes a directory with all in it, as far as that goes. -/
def removeTree (path : Path) : Job Unit := ExceptT.mk (.ask (.removeTree path) fun _ => .done (.ok ()))

/-- The tool's list of rules. -/
def listRules : Job Text := ExceptT.mk (.ask .listRules .done)

/-- The tool's version. -/
def version : Job Text := ExceptT.mk (.ask .version .done)

/-- The tool's report on a workspace under a configuration. -/
def lint (workspace config : Path) : Job Text := ExceptT.mk (.ask (.lint workspace config) .done)

/-- Starts to ask the tool for the details of a rule. -/
def startDetails (index : Nat) (id : Text) : Job Unit :=
  ExceptT.mk (.ask (.startDetails index id) fun _ => .done (.ok ()))

/-- Waits for the next details that arrive. -/
def awaitDetails : Job (Nat × Except Failure Text) := ExceptT.mk (.ask .awaitDetails .done)

/-- Sends a request and waits for the head of the response. -/
def send (url : Text) : Job (Except TransportStop ResponseHead) :=
  ExceptT.mk (.ask (.send url) fun e => .done (.ok e))

/-- Waits for the next part of the response. -/
def receive (decoding : Remote.ContentDecoding) :
    Job (Except TransportStop (Option (List UInt8 × Remote.ContentDecoding))) :=
  ExceptT.mk (.ask (.receive decoding) fun e => .done (.ok e))

/-- Waits for the rest of the response, which is not used. -/
def drain (decoding : Remote.ContentDecoding) : Job (Except TransportStop Unit) :=
  ExceptT.mk (.ask (.drain decoding) fun e => .done (.ok e))

/-- Waits for the turn to load the catalog. -/
def enterLoad : Job Unit := ExceptT.mk (.ask .enterLoad .done)

/-- Ends the turn to load the catalog. -/
def leaveLoad : Job Unit := ExceptT.mk (.ask .leaveLoad fun _ => .done (.ok ()))

/-- Puts rules into the catalog. -/
def putRules (rules : List Rule) : Job Unit := ExceptT.mk (.ask (.putRules rules) fun _ => .done (.ok ()))

/-- The rules in the catalog. -/
def rules : Job (List Rule) := ExceptT.mk (.ask .rules fun rs => .done (.ok rs))

/-! ### Logged operations -/

/-- Logs a record if its level is not below a limit; a context that clashes with the record fails. -/
def emit (limit : Int) (r : LogRecord) : Job Unit :=
  if r.level.rank < limit then pure ()
  else match r.clash? with
    | some key => fail (.keyClash key)
    | none => log r

/-- Milliseconds between two readings of the clock. -/
def latency (start stop : Nat) : Nat := (stop - start) / 1000000

/-- The record of an operation's end. -/
def endRecord (operation : Text) (context : List (Text × Json)) (latency : Nat) : Except Stop α → LogRecord
  | .ok _ => ⟨.info, "✅ " ++ operation ++ " completed in " ++ Text.ofNat latency ++ "ms", context, false⟩
  | .error (.failed f) =>
    ⟨.error, "❌ " ++ operation ++ " failed after " ++ Text.ofNat latency ++ "ms",
      putEntry "error" (.text f.message) context, true⟩
  | .error .cancelled =>
    ⟨.warning, "⚠️ " ++ operation ++ " cancelled after " ++ Text.ofNat latency ++ "ms", context, false⟩

/-- A record with the latency in its context. -/
def withLatency (latency : Nat) (r : LogRecord) : LogRecord :=
  { r with context := putEntry "latency_ms" (.int latency) r.context }

/-- A job whose start and end are logged under a name and a context, by a log that keeps what is not below a limit. -/
def loggedFrom (limit : Int) (operation : Text) (context : List (Text × Json)) (job : Job α) : Job α := do
  let context := collectEntries (("operation", .text operation) :: context)
  let start ← clock
  emit limit ⟨.info, "🚀 Starting " ++ operation, context, false⟩
  let e ← job.outcome
  let stop ← clock
  let took := latency start stop
  emit limit (withLatency took (endRecord operation context took e))
  ofEnd e

/-- A job whose start and end are logged, by a log that keeps what is not below a level. -/
def logged (threshold : LogLevel) (operation : Text) (context : List (Text × Json)) (job : Job α) : Job α :=
  loggedFrom threshold.rank operation context job

/-- The names of the arguments of a logged operation, under which nothing of a further context can be given. -/
def argumentNames : List Text := ["operation", "subject_ids"]

/-- The failure of a call that gives an argument twice. -/
def givenTwice (name : Text) : Failure :=
  .foreign "TypeError" ("log_operation() got multiple values for argument '" ++ name ++ "'")

/-- A logged job with the ids of its subjects, and a further context that is given by names. -/
def loggedAbout (limit : Int) (operation : Text) (subjects context : List (Text × Json)) (job : Job α) : Job α :=
  match (context.map (·.1)).find? argumentNames.contains with
  | some name => fail (givenTwice name)
  | none => loggedFrom limit operation (subjects ++ context) job

end Job

end LintPreview
