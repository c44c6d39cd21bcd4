import LintPreview.Tool.Call
import LintPreview.Tool.Finder

/-!
Processes of the lint tool as a rehearsal has them.

* `ProcessScript`: how a process behaves.
* `Workbench`: the files and the search path, the memory of the tool's path, and what has been asked so far.
* `Workbench.answer`: the answer to an act. Without a script no process can be started, because no file holds a
  program that can be run.
-/

namespace LintPreview

/-- How a process behaves. An exit code is missing as long as the process has not ended. -/
structure ProcessScript where
  startFault : Option Text := none
  output : List UInt8 := []
  errors : List UInt8 := []
  exitCode : Option Int := some 0
  hangs : Bool := false
  killMisses : Bool := false
  isCancelled : Bool := false

/-- Files, a search path and a scripted process. -/
structure Workbench where
  files : FileTree := {}
  searchPath : Text := ""
  time : Nat := 0
  memory : Option FoundTool := none
  process : Option ProcessScript := none
  started : List (List Text × Option Text) := []
  kills : Nat := 0
  waits : Nat := 0

namespace Workbench

/-- What a search for the tool meets. -/
def surroundings (w : Workbench) : Surroundings := ⟨w.files, w.searchPath, w.time⟩

/-- The tree as it is seen from a directory. -/
def enter (t : FileTree) (directory : Text) : Except FileError FileTree :=
  match t.locate (Path.ofString directory), t.entryAt? directory with
  | .ok loc, some .directory => .ok { t with working := loc }
  | .ok _, some (.file ..) => .error ⟨.notDirectory, directory, none⟩
  | .error (.file e), _ => .error { e with path := directory }
  | _, _ => .error ⟨.missing, directory, none⟩

/-- Why a path cannot be run. -/
def runFault (t : FileTree) (program : Text) : FileError :=
  match t.lookup (Path.ofString program) with
  | .ok .directory => ⟨.denied, program, none⟩
  | .ok (.file _ executable) =>
    ⟨if FileTree.demandsDirectory program then .notDirectory else if executable then .notProgram else .denied,
      program, none⟩
  | .error (.file e) => { e with path := program }
  | .error _ => ⟨.missing, program, none⟩

/-- Why a program cannot be started in a directory. -/
def startFault (t : FileTree) (command : List Text) (directory : Option Text) : FileError :=
  let program := command.headD ""
  match directory with
  | none => runFault t program
  | some d =>
    match enter t d with
    | .ok t => runFault t program
    | .error e => e

/-- Why a text can stand in no command. -/
def wordFault? (word : Text) : Option PathFault :=
  match Text.encodeName word with
  | .error run => some (.unencodable run)
  | .ok bytes => if bytes.contains 0 then some .embeddedNull else none

/-- How the start of a process ends. -/
def startReply (w : Workbench) (command : List Text) (directory : Option Text) : Except StartStop Unit :=
  match w.process with
  | none =>
    match (command ++ directory.toList).findSome? wordFault? with
    | some fault => .error (.stopped (.failed (.path fault)))
    | none => .error (.refused (startFault w.files command directory).message)
  | some p =>
    match p.startFault with
    | some reason => .error (.refused reason)
    | none => .ok ()

/-- How waiting for a process ends. Who waits for no time at all does not see the end of any process. -/
def endReply (p : ProcessScript) (seconds : Binary64) : ProcessEnd :=
  if p.hangs && p.isCancelled then .cancelled
  else if p.hangs || seconds.isZero || seconds.isNegative then .timedOut
  else .exited (p.exitCode.getD 0) p.output p.errors

/-- The answer to an act, and the workbench after it. -/
def answer : (act : ToolAct) → Workbench → act.Reply × Workbench
  | .locate settings, w =>
    let (reply, memory) := w.surroundings.locateTool settings w.memory
    (reply, { w with memory })
  | .start command directory, w =>
    (w.startReply command directory, { w with started := w.started ++ [(command, directory)] })
  | .finish seconds, w => (endReply (w.process.getD {}) seconds, w)
  | .hasExited, w => ((w.process.getD {}).exitCode.isSome, w)
  | .kill, w => (!(w.process.getD {}).killMisses, { w with kills := w.kills + 1 })
  | .await, w => (.ok (), { w with waits := w.waits + 1 })

/-- The end of a call, and the workbench behind it. -/
def run {α : Type} (job : ToolJob α) (w : Workbench) : Except Stop α × Workbench := Program.run answer job w

end Workbench

end LintPreview
