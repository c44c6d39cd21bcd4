import LintPreview.Service.Act
import LintPreview.Settings
import LintPreview.Text.Utf8

/-!
Calls of the lint tool.

* `ToolCommand`: what the tool is asked, with its arguments and the exit codes that count as success.
* `ToolAct`: what a call asks of its surroundings, from finding the program to waiting for its end.
* `ToolCommand.call`: one call. A process that does not end in time, or whose caller is cancelled, is killed.
-/

namespace LintPreview

/-- What the lint tool is asked. -/
inductive ToolCommand where
  | listRules
  | details (id : Text)
  | lint (workspace config : Path)
  | version
deriving DecidableEq, Repr

namespace ToolCommand

/-- The name of a command. -/
def name : ToolCommand → Text
  | .listRules => "rules"
  | .details _ => "rules"
  | .lint .. => "lint"
  | .version => "version"

/-- The arguments behind the name of a command. -/
def options : ToolCommand → List Text
  | .listRules => []
  | .details id => [id]
  | .lint _ config => ["--reporter", "json", "--quiet", "--config", config.toString]
  | .version => []

/-- The directory in which a command is run, unless it is the working directory. -/
def directory : ToolCommand → Option Text
  | .lint workspace _ => some workspace.toString
  | _ => none

/-- The exit code of a lint run that found violations. -/
def violationsFound : Int := 2

/-- Whether an exit code means success. -/
def accepts (c : ToolCommand) (code : Int) : Bool :=
  match c with
  | .lint .. => code == 0 || code == violationsFound
  | _ => code == 0

/-- What a command gives, from what the tool has written. -/
def resultOf (c : ToolCommand) (output : Text) : Text :=
  match c with
  | .version => Text.trim output
  | _ => output

end ToolCommand

/-- How waiting for a process ends. -/
inductive ProcessEnd where
  | exited (code : Int) (output errors : List UInt8)
  | timedOut
  | cancelled

/-- Why a process is not started: the system refuses it, or the call comes to a stop before there is one. -/
inductive StartStop where
  | refused (reason : Text)
  | stopped (s : Stop)

/-- How a call stops whose process is not started. -/
def StartStop.toStop : StartStop → Stop
  | .refused reason => .failed (.toolFailed ("Failed to start lint tool: " ++ reason) none "")
  | .stopped s => s

/-- What a call of the tool asks. -/
inductive ToolAct where
  | locate (settings : ToolSettings)
  | start (command : List Text) (directory : Option Text)
  | finish (seconds : Binary64)
  | hasExited
  | kill
  | await

/-- The kind of reply to an act. Killing tells whether there was a process. -/
abbrev ToolAct.Reply : ToolAct → Type
  | .locate _ => Except Failure Text
  | .start _ _ => Except StartStop Unit
  | .finish _ => ProcessEnd
  | .hasExited => Bool
  | .kill => Bool
  | .await => Except Stop Unit

/-- A program that calls the tool. -/
abbrev ToolJob (α : Type) : Type := ExceptT Stop (Program ToolAct ToolAct.Reply) α

namespace ToolJob

/-- The path of the tool's program. -/
def locate (settings : ToolSettings) : ToolJob Text :=
  ExceptT.mk (.ask (.locate settings) fun e => .done (e.mapError .failed))

/-- Starts a process. -/
def start (command : List Text) (directory : Option Text) : ToolJob Unit :=
  ExceptT.mk (.ask (.start command directory) fun e => .done (e.mapError StartStop.toStop))

/-- Waits for the end of the process, at most so many seconds. -/
def finish (seconds : Binary64) : ToolJob ProcessEnd :=
  ExceptT.mk (.ask (.finish seconds) fun e => .done (.ok e))

/-- Whether the process is known to have ended. -/
def hasExited : ToolJob Bool := ExceptT.mk (.ask .hasExited fun b => .done (.ok b))

/-- Kills the process, and tells whether there was one. -/
def kill : ToolJob Bool := ExceptT.mk (.ask .kill fun b => .done (.ok b))

/-- Waits for the process that was killed. -/
def await : ToolJob Unit := ExceptT.mk (.ask .await .done)

/-- Puts an end to the process unless it has ended by itself. -/
def terminate : ToolJob Unit := do
  if ← hasExited then return ()
  if ← kill then await

end ToolJob

namespace ToolCommand

/-- The most characters of the error output in a message. -/
def maxQuotedErrors : Nat := 200

/-- The failure of a process that ended with another exit code. -/
def exitFailure (c : ToolCommand) (code : Int) (errors : Text) : Failure :=
  .toolFailed ("Lint tool '" ++ c.name ++ "' exited with code " ++ Text.ofInt code ++ ": " ++
    Text.ofList ((Text.trimChars errors.toList).take maxQuotedErrors)) (some code) errors

/-- What a process that ended gives. -/
def outcomeOf (c : ToolCommand) (code : Int) (output errors : List UInt8) : Except Stop Text :=
  if c.accepts code then .ok (c.resultOf (Text.ofList (Text.decodeLossy output)))
  else .error (.failed (c.exitFailure code (Text.ofList (Text.decodeLossy errors))))

/-- One call of the tool. -/
def call (settings : ToolSettings) (c : ToolCommand) : ToolJob Text := do
  let program ← ToolJob.locate settings
  ToolJob.start (program :: c.name :: c.options) c.directory
  match ← ToolJob.finish settings.timeout with
  | .exited code output errors => ExceptT.mk (.done (c.outcomeOf code output errors))
  | .timedOut => do
    ToolJob.terminate
    throw (.failed (.toolTimedOut settings.timeout))
  | .cancelled => do
    ToolJob.terminate
    throw .cancelled

end ToolCommand

end LintPreview
