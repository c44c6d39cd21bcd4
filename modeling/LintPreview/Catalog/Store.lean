import LintPreview.Catalog.Snapshot
import LintPreview.Disk

/-!
The store of the last snapshot: one file, replaced as a whole.

* `Store.save`: writes a snapshot beside the file and puts it in the file's place in one step; whatever fails on the
  way, the file is as before and nothing is left beside it.
* `Store.loadSnapshot`: the snapshot in the file, or why there is none.
* `Store.clear`: removes the file.
-/

namespace LintPreview

/-- Where the snapshot is kept. -/
structure Store where
  directory : Path
  file : Path
deriving DecidableEq, Repr

namespace Store

/-- The name of the file where none is given. -/
def defaultFileName : Text := "rules_cache.json"

/-- The store in a directory; a leading `~` names the home directory. -/
def at? (home directory : Text) (fileName : Option Text) : Except Failure Store := do
  let d ← ((Path.ofString directory).expandHome home).mapError .home
  let name := match fileName with
    | some n => if n.isEmpty then defaultFileName else n
    | none => defaultFileName
  return ⟨d, d.join (Path.ofString name)⟩

/-- Removes the file that was made for a while, and ends with the failure that made this necessary. -/
def giveUp {α : Type} (temporary : Text) (failure : Failure) : Disk (Except Failure α) := do
  match ← Disk.remove (Path.ofString temporary) with
  | .error fault => return .error (.path fault)
  | .ok () => return .error failure

/-- Writes a snapshot and puts it in the place of the last one. -/
def save (s : Store) (rules : List Rule) (toolVersion : Option Text) : Disk (Except Failure Snapshot) := do
  match Snapshot.make rules (← Disk.now) toolVersion with
  | .invalid faults => return .error (.badRecord faults)
  | .valid snapshot =>
    match ← Disk.makeDirectories s.directory with
    | .error fault => return .error (.path fault)
    | .ok () =>
      match ← Disk.makeTemporary s.directory with
      | .error fault => return .error (.path fault)
      | .ok temporary =>
        match snapshot.text with
        | .error fault => giveUp temporary (.unwritable fault)
        | .ok text =>
          match ← Disk.write (Path.ofString temporary) text with
          | .error fault => giveUp temporary (.path fault)
          | .ok () =>
            match ← Disk.replace temporary s.file with
            | .error fault => giveUp temporary (.path fault)
            | .ok () => return .ok snapshot

/-- The failure of reading the file. -/
def unreadable (s : Store) (reason : Text) : Failure := .cacheUnreadable s.file.toString reason

/-- The failure of a read as the store reports it. -/
def readFailure (s : Store) : Failure → Failure
  | .path (.file e) => s.unreadable (if e.cause = .missing then "no snapshot" else e.message)
  | f => f

/-- The snapshot in the file. -/
def loadSnapshot (s : Store) : Disk (Except Failure Snapshot) := do
  match ← Disk.readText s.file with
  | .error failure => return .error (s.readFailure failure)
  | .ok content =>
    match Snapshot.ofText (← Disk.now) content with
    | .valid snapshot => return .ok snapshot
    | .invalid faults =>
      return .error (s.unreadable ("corrupt snapshot (" ++ Text.ofNat faults.length ++ " errors)"))

/-- The rules of the snapshot in the file. -/
def load (s : Store) : Disk (Except Failure (List Rule)) := do
  return (← s.loadSnapshot).map (·.rules)

/-- Removes the file; that it is missing already is no failure. -/
def clear (s : Store) : Disk (Except Failure Unit) := do
  return (← Disk.remove s.file).mapError .path

end Store

end LintPreview
