import LintPreview.Disk
import LintPreview.Settings

/-!
Finding the lint tool.

* `FileTree.isProgram`: a path names a file that may be run.
* `Surroundings.findProgram?`: the first such file in the places of the settings, then on the search path.
* `Surroundings.locateTool`: the same with a memory. A path that was found is kept for ten minutes, as long as it may
  still be run; it is not looked for again in that time, even if an earlier place has one by now.
-/

namespace LintPreview

namespace FileTree

/-- Whether a path is written so that only a directory can have it: its last name is empty or a dot. -/
def demandsDirectory (text : Text) : Bool :=
  let last := ((Text.splitOnChar '/' text.toList).getLast?).getD []
  last.isEmpty || last == [.char '.']

/-- What a path names, as it is written. The empty text names nothing. -/
def entryAt? (t : FileTree) (text : Text) : Option FileEntry :=
  if text.isEmpty then none
  else match t.lookup (Path.ofString text) with
    | .ok .directory => some .directory
    | .ok (.file content executable) =>
      if demandsDirectory text then none else some (.file content executable)
    | .error _ => none

/-- Whether a path names a file that may be run. -/
def isProgram (t : FileTree) (text : Text) : Bool :=
  match t.entryAt? text with
  | some (.file _ executable) => executable
  | _ => false

/-- Whether a path may be entered or run. -/
def isPassable (t : FileTree) (text : Text) : Bool :=
  match t.entryAt? text with
  | some (.file _ executable) => executable
  | some .directory => true
  | none => false

end FileTree

/-- What a search meets: the files, the search path and the time in billionths of a second. -/
structure Surroundings where
  files : FileTree
  searchPath : Text
  time : Nat := 0

/-- A path that was found, and when. -/
structure FoundTool where
  path : Text
  time : Nat
deriving DecidableEq, Repr

/-- How long a path that was found is kept, in billionths of a second. -/
def FoundTool.lifetime : Nat := 600 * 1000000000

/-- Whether a path that was found is still kept. -/
def FoundTool.isKept (f : FoundTool) (now : Nat) : Bool := now < f.time + lifetime

/-- The failure of a search. -/
def ToolSettings.notFound (s : ToolSettings) : Failure :=
  let places := Text.intercalate ", " s.searchPaths
  .toolNotFound ("Lint tool '" ++ s.executable ++ "' not found in " ++
    (if places.isEmpty then Text.ofString "configured paths" else places) ++ " or on PATH") none ""

namespace Surroundings

/-- The directories of the search path. An empty search path has none; an empty one among others is the working
directory. -/
def searchDirectories (s : Surroundings) : List Text :=
  if s.searchPath.isEmpty then []
  else (Text.splitOnChar ':' s.searchPath.toList).map Text.ofList

/-- The path of a name in a directory of the search path. -/
def nameIn (directory name : Text) : Text :=
  if directory.isEmpty then name else Host.below directory name

/-- A program by its name. A name with a slash is a path and is not searched for. -/
def onSearchPath? (s : Surroundings) (name : Text) : Option Text :=
  let candidates := if name.toList.contains '/' then [name] else s.searchDirectories.map (nameIn · name)
  candidates.find? s.files.isProgram

/-- The lint tool, looked for anew. -/
def findProgram? (s : Surroundings) (settings : ToolSettings) : Option Text :=
  match settings.searchPaths.find? s.files.isProgram with
  | some path => some path
  | none => s.onSearchPath? settings.executable

/-- The path in memory, if it is still kept and may be run. -/
def remembered? (s : Surroundings) (memory : Option FoundTool) : Option Text :=
  match memory with
  | some f => if f.isKept s.time && s.files.isPassable f.path then some f.path else none
  | none => none

/-- The lint tool, and the memory afterwards. -/
def locateTool (s : Surroundings) (settings : ToolSettings) (memory : Option FoundTool) :
    Except Failure Text × Option FoundTool :=
  match s.remembered? memory with
  | some path => (.ok path, memory)
  | none =>
    match s.findProgram? settings with
    | some path => (.ok path, some ⟨path, s.time⟩)
    | none => (.error settings.notFound, memory)

end Surroundings

end LintPreview
