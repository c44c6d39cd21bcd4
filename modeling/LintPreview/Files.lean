import LintPreview.Path
import LintPreview.Text.Quoted
import LintPreview.Text.Utf8

/-!
A tree of files.

* `FileTree`: directories and files by their location, which is the list of names from the root.
* `FileTree.locate`: the location that a path names, or why it names none.
* `FileTree.readText`, `FileTree.write`, `FileTree.makeDirectories`, `FileTree.replace`, `FileTree.remove`,
  `FileTree.removeTree`: the operations on files, each leaving every other location as it was.
* `FileError.message`: the wording of an error.
-/

namespace LintPreview

/-- The bytes of the names from the root of the tree down to a file or directory. -/
abbrev Location := List (List UInt8)

/-- What stands at a location. -/
inductive FileEntry where
  | directory
  | file (content : List UInt8) (executable : Bool)
deriving DecidableEq, Repr

/-- Why an operation on a file fails. -/
inductive FileCause where
  | missing
  | notProgram
  | denied
  | exists
  | notDirectory
  | isDirectory
  | nameTooLong
deriving DecidableEq, Repr

/-- An operation that failed on a path, or on the way from a path to a target. -/
structure FileError where
  cause : FileCause
  path : Text
  target : Option Text := none
deriving DecidableEq, Repr

/-- The number of a cause. -/
def FileCause.code : FileCause → Nat
  | .missing => 2
  | .notProgram => 8
  | .denied => 13
  | .exists => 17
  | .notDirectory => 20
  | .isDirectory => 21
  | .nameTooLong => 36

/-- The wording of a cause. -/
def FileCause.message : FileCause → Text
  | .missing => "No such file or directory"
  | .notProgram => "Exec format error"
  | .denied => "Permission denied"
  | .exists => "File exists"
  | .notDirectory => "Not a directory"
  | .isDirectory => "Is a directory"
  | .nameTooLong => "File name too long"

/-- The wording of an error. -/
def FileError.message (e : FileError) : Text :=
  "[Errno " ++ Text.ofNat e.cause.code ++ "] " ++ e.cause.message ++ ": " ++ Text.quoted e.path ++
    (match e.target with
     | some t => " -> " ++ Text.quoted t
     | none => "")

/-- Why a path cannot be used: an operation fails, it has no bytes, or it holds a NUL character. -/
inductive PathFault where
  | file (e : FileError)
  | unencodable (run : Text.LoneHalves)
  | embeddedNull
deriving DecidableEq, Repr

/-- The wording of a fault. -/
def PathFault.message : PathFault → Text
  | .file e => e.message
  | .unencodable run => run.message
  | .embeddedNull => "embedded null byte"

/-- The most bytes in a name. -/
def maxNameBytes : Nat := 255

/-- The most bytes in a path, its end mark included. -/
def maxPathBytes : Nat := 4096

/-- A tree of files, with the location of the working directory and the home directory's path. -/
structure FileTree where
  entries : List (Location × FileEntry) := []
  working : Location := []
  home : Text := "home"
deriving Repr

namespace FileTree

/-- What stands under a location in a list of entries. -/
def find (loc : Location) : List (Location × FileEntry) → Option FileEntry
  | [] => none
  | (l, e) :: rest => if l = loc then some e else find loc rest

/-- What stands at a location. The root is a directory. -/
def get? (t : FileTree) (loc : Location) : Option FileEntry :=
  if loc = [] then some .directory else find loc t.entries

/-- The tree with an entry at a location. -/
def put (t : FileTree) (loc : Location) (e : FileEntry) : FileTree :=
  { t with entries := (loc, e) :: t.entries.filter fun x => x.1 ≠ loc }

/-- The tree without the entry at a location. -/
def erase (t : FileTree) (loc : Location) : FileTree :=
  { t with entries := t.entries.filter fun x => x.1 ≠ loc }

/-- The tree without a location and all below it. -/
def removeTree (t : FileTree) (loc : Location) : FileTree :=
  { t with entries := t.entries.filter fun x => !loc.isPrefixOf x.1 }

/-- Whether a directory stands at a location. -/
def isDirectoryAt (t : FileTree) (loc : Location) : Bool := t.get? loc == some .directory

/-- The bytes of two dots, which name the directory above. -/
def twoDots : List UInt8 := [46, 46]

/-- The location reached from the directory `loc` by names; all but the last must be directories. -/
def walk (t : FileTree) : (loc : Location) → (names : List (List UInt8)) → Except FileCause Location
  | loc, [] => .ok loc
  | loc, name :: rest =>
    let next := if name = twoDots then loc.dropLast else loc ++ [name]
    if maxNameBytes < name.length then .error .nameTooLong
    else if rest.isEmpty then .ok next
    else match t.get? next with
      | some .directory => walk t next rest
      | some (.file ..) => .error .notDirectory
      | none => .error .missing

/-- Where a path starts. -/
def startOf (t : FileTree) (p : Path) : Location := if p.isAbsolute then [] else t.working

/-- The location that a path names, whether or not something stands there. -/
def locate (t : FileTree) (p : Path) : Except PathFault Location := do
  let text := p.toString
  let bytes ← (Text.encodeName text).mapError .unencodable
  let names ← (p.parts.mapM Text.encodeName).mapError .unencodable
  if bytes.contains 0 then throw .embeddedNull
  else if maxPathBytes ≤ bytes.length then throw (.file ⟨.nameTooLong, text, none⟩)
  else (t.walk (t.startOf p) names).mapError fun c => .file ⟨c, text, none⟩

/-- The file or directory that a path names. -/
def lookup (t : FileTree) (p : Path) : Except PathFault FileEntry := do
  match t.get? (← t.locate p) with
  | some e => return e
  | none => throw (.file ⟨.missing, p.toString, none⟩)

/-- The bytes of a file. -/
def readBytes (t : FileTree) (p : Path) : Except PathFault (List UInt8) := do
  match ← t.lookup p with
  | .file content _ => return content
  | .directory => throw (.file ⟨.isDirectory, p.toString, none⟩)

/-- Whether a path names a directory; a path that cannot be used does not. -/
def isDirectory (t : FileTree) (p : Path) : Bool :=
  match t.lookup p with
  | .ok .directory => true
  | _ => false

/-- The tree with a file written. -/
def write (t : FileTree) (p : Path) (content : List UInt8) : Except PathFault FileTree := do
  let loc ← t.locate p
  match t.get? loc with
  | some .directory => throw (.file ⟨.isDirectory, p.toString, none⟩)
  | some (.file _ executable) => return t.put loc (.file content executable)
  | none => return t.put loc (.file content false)

/-- The directory above a path. -/
def parentOf (p : Path) : Path := { p with parts := p.parts.dropLast }

/-- The tree with a directory made, and those above it where they are missing; a directory that stands there is kept. -/
def makeDirectories (t : FileTree) : (fuel : Nat) → Path → Except PathFault FileTree
  | 0, _ => .ok t
  | fuel + 1, p =>
    let make (t : FileTree) : Except PathFault FileTree := do
      let loc ← t.locate p
      match t.get? loc with
      | some .directory => return t
      | some (.file ..) => throw (.file ⟨.exists, p.toString, none⟩)
      | none => return t.put loc .directory
    match make t with
    | .error (.file ⟨.missing, path, target⟩) =>
      if p.parts.isEmpty then .error (.file ⟨.missing, path, target⟩)
      else do make (← t.makeDirectories fuel (parentOf p))
    | other => other

/-- The tree with a directory and all above it. -/
def withDirectory (t : FileTree) (p : Path) : Except PathFault FileTree := t.makeDirectories (p.parts.length + 1) p

/-- The tree with the file named by the text `source` moved to `target`, in one step. -/
def replace (t : FileTree) (source : Text) (target : Path) : Except PathFault FileTree := do
  let fail (c : FileCause) : PathFault := .file ⟨c, source, some target.toString⟩
  let both : PathFault → PathFault
    | .file e => fail e.cause
    | other => other
  let from? ← (t.locate (Path.ofString source)).mapError both
  let to? ← (t.locate target).mapError both
  match t.get? from?, t.get? to? with
  | none, _ => throw (fail .missing)
  | some _, some .directory => throw (fail .isDirectory)
  | some e, _ => return (t.erase from?).put to? e

/-- The tree without a file; that it is missing already is no fault. -/
def removeFile (t : FileTree) (p : Path) : Except PathFault FileTree := do
  match t.locate p with
  | .error (.file e) => if e.cause = .missing then return t else throw (.file e)
  | .error other => throw other
  | .ok loc =>
    match t.get? loc with
    | none => return t
    | some .directory => throw (.file ⟨.isDirectory, p.toString, none⟩)
    | some (.file ..) => return t.erase loc

/-- The names in a directory. -/
def names (t : FileTree) (loc : Location) : List Text :=
  t.entries.filterMap fun x =>
    if x.1.dropLast = loc ∧ x.1 ≠ [] then x.1.getLast?.map Text.decodeName else none

/-- The names in the directory that a path names. -/
def listing (t : FileTree) (p : Path) : Except PathFault (List Text) := do
  match ← t.lookup p with
  | .directory => return t.names (← t.locate p)
  | .file .. => throw (.file ⟨.notDirectory, p.toString, none⟩)

/-- The text of bytes with the line ends that a text file has. -/
def textOf (content : List UInt8) : Except Text.Utf8Error (List CodePoint) :=
  (Text.decode content).map Text.unifyNewlines

/-- The tree with an entry at a path, taken from the working directory by its names, and the directories above it; a
path that has no bytes is left out. -/
def plant (t : FileTree) (p : Path) (e : FileEntry) : FileTree :=
  let loc := t.startOf p ++ p.parts.filterMap fun name => (Text.encodeName name).toOption
  let above := (List.range loc.length).map fun n => loc.take n
  (above.foldl (fun t l => if l.isEmpty || t.isDirectoryAt l then t else t.put l .directory) t).put loc e

end FileTree

end LintPreview
