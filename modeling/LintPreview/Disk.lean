import LintPreview.Failure
import LintPreview.Program

/-!
Programs that work on files.

* `DiskAct`: what such a program asks. Every act can fail, whatever the tree of files.
* `Disk`: the programs.
* `Host.answerDisk`: the answers of a tree of files.
-/

namespace LintPreview

/-- What a program asks of a disk. `makeTemporary` makes an empty file of a name that was free. -/
inductive DiskAct where
  | now
  | read (path : Path)
  | makeDirectories (path : Path)
  | makeTemporary (directory : Path)
  | write (path : Path) (content : Text)
  | replace (source : Text) (target : Path)
  | remove (path : Path)

/-- The kind of reply to an act. -/
abbrev DiskAct.Reply : DiskAct → Type
  | .now => Moment
  | .read _ => Except PathFault (List UInt8)
  | .makeDirectories _ => Except PathFault Unit
  | .makeTemporary _ => Except PathFault Text
  | .write _ _ => Except PathFault Unit
  | .replace _ _ => Except PathFault Unit
  | .remove _ => Except PathFault Unit

/-- A program that works on files. -/
abbrev Disk (α : Type) : Type := Program DiskAct DiskAct.Reply α

namespace Disk

/-- The present moment. -/
def now : Disk Moment := .ask .now .done

/-- The bytes of a file. -/
def read (path : Path) : Disk (Except PathFault (List UInt8)) := .ask (.read path) .done

/-- Makes a directory and those above it. -/
def makeDirectories (path : Path) : Disk (Except PathFault Unit) := .ask (.makeDirectories path) .done

/-- Makes an empty file of a free name, and tells its path. -/
def makeTemporary (directory : Path) : Disk (Except PathFault Text) := .ask (.makeTemporary directory) .done

/-- Writes a file. -/
def write (path : Path) (content : Text) : Disk (Except PathFault Unit) := .ask (.write path content) .done

/-- Moves a file to the place of another one, in one step. -/
def replace (source : Text) (target : Path) : Disk (Except PathFault Unit) := .ask (.replace source target) .done

/-- Removes a file; that it is missing already is no failure. -/
def remove (path : Path) : Disk (Except PathFault Unit) := .ask (.remove path) .done

/-- The text of a file. -/
def readText (path : Path) : Disk (Except Failure Text) := do
  match ← read path with
  | .error fault => return .error (.path fault)
  | .ok content =>
    match FileTree.textOf content with
    | .error e => return .error (.undecodable e)
    | .ok cs => return .ok (Text.ofList cs)

end Disk

/-- The files of a machine, and the moment. -/
structure Host where
  files : FileTree := {}
  moment : Moment := .time ⟨1970, 1, 1⟩ ⟨0, 0, 0, 0⟩ (some 0)

namespace Host

/-- The name of the `n`-th file that is made for a while. -/
def temporaryName (n : Nat) : Text := ".rules-" ++ Moment.pad 8 n ++ ".json"

/-- The bytes of a name, none if it has none. -/
def nameBytes (name : Text) : List UInt8 := (Text.encodeName name).toOption.getD []

/-- A number for which `name` gives a free name in the directory. -/
def freeNumber (t : FileTree) (directory : Location) (name : Nat → Text) : Nat :=
  ((List.range (t.entries.length + 1)).find? fun n => (t.get? (directory ++ [nameBytes (name n)])).isNone).getD 0

/-- The text of a path below a directory. -/
def below (directory name : Text) : Text :=
  if directory.toList.getLast? = some '/' then directory ++ name else directory ++ "/" ++ name

/-- The path of a new empty file below a directory. -/
def makeTemporary (t : FileTree) (directory : Path) : Except PathFault (Text × FileTree) := do
  let loc ← t.locate directory
  let name := temporaryName (freeNumber t loc temporaryName)
  let text := below directory.toString name
  let t ← t.write (Path.ofString text) []
  return (text, t)

/-- The reply and the host after a change of the files that may fail. -/
def changed (h : Host) : Except PathFault FileTree → Except PathFault Unit × Host
  | .ok t => (.ok (), { h with files := t })
  | .error fault => (.error fault, h)

/-- The directory in which scratch directories are made. -/
def scratchRoot : Path := ⟨.slash, ["tmp"]⟩

/-- The name of the `n`-th scratch directory with a label. -/
def scratchName (label : Text) (n : Nat) : Text := label ++ Moment.pad 8 n

/-- A new directory whose name starts with a label. -/
def makeScratch (h : Host) (label : Text) : Except PathFault (Path × Host) := do
  let root ← h.files.locate scratchRoot
  let path := scratchRoot.join (Path.ofString (scratchName label (freeNumber h.files root (scratchName label))))
  let loc ← h.files.locate path
  return (path, { h with files := h.files.put loc .directory })

/-- A directory removed with all in it; one that is not there is no failure. -/
def removeTree (h : Host) (path : Path) : Host :=
  match h.files.locate path with
  | .ok loc => { h with files := h.files.removeTree loc }
  | .error _ => h

/-- The answer of a host to an act on its files. -/
def answerDisk : (act : DiskAct) → Host → act.Reply × Host
  | .now, h => (h.moment, h)
  | .read path, h => (h.files.readBytes path, h)
  | .makeDirectories path, h => h.changed (h.files.withDirectory path)
  | .makeTemporary directory, h =>
    match makeTemporary h.files directory with
    | .ok (text, t) => (.ok text, { h with files := t })
    | .error fault => (.error fault, h)
  | .write path content, h =>
    match Text.encode content with
    | .ok bytes => h.changed (h.files.write path bytes)
    | .error run => (.error (.unencodable run), (h.changed (h.files.write path [])).2)
  | .replace source target, h => h.changed (h.files.replace source target)
  | .remove path, h => h.changed (h.files.removeFile path)

end Host

end LintPreview
