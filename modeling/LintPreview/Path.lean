import LintPreview.Text.Lines

/-!
Paths as names, without any look at a file tree.

* `Path.ofString`, `Path.toString`: a path is read into its root and its parts; repeated slashes and single dots
  leave no trace, two dots stay.
* `Path.join`: a path read from another one; an absolute path stands for itself.
* `Path.relativeTo?`: the way from a directory to a path below it.
* `Path.expandHome`: a leading `~` names a home directory.
-/

namespace LintPreview

/-- Where a path starts. Exactly two slashes in front are a root of their own. -/
inductive PathRoot where
  | relative
  | slash
  | twoSlashes
deriving DecidableEq, Repr, Inhabited

/-- A path: its root and its parts, none of them empty or a single dot. -/
structure Path where
  root : PathRoot := .relative
  parts : List Text := []
deriving DecidableEq, Repr, Inhabited

namespace Path

/-- The text of a root. -/
def rootText : PathRoot → Text
  | .relative => ""
  | .slash => "/"
  | .twoSlashes => "//"

/-- The root that a text starts with, by the number of its slashes. -/
def rootOf (cs : List CodePoint) : PathRoot :=
  match (cs.takeWhile fun c : CodePoint => c == '/').length with
  | 0 => .relative
  | 2 => .twoSlashes
  | _ => .slash

/-- The parts of a text. -/
def partsOf (cs : List CodePoint) : List Text :=
  ((Text.splitOnChar '/' cs).map Text.ofList).filter fun p => !p.isEmpty && p != "."

/-- The path that a text names. -/
def ofString (s : Text) : Path := ⟨rootOf s.toList, partsOf s.toList⟩

/-- The text of a path; the empty path is a dot. -/
def toString (p : Path) : Text :=
  let s := rootText p.root ++ Text.intercalate "/" p.parts
  if s = "" then "." else s

/-- Whether a path starts at a root. -/
def isAbsolute (p : Path) : Bool := p.root != .relative

/-- The path `q` read from `p`. -/
def join (p q : Path) : Path := if q.isAbsolute then q else ⟨p.root, p.parts ++ q.parts⟩

/-- What is left of `xs` after the beginning `ys`, if it begins so. -/
def dropBeginning? : List Text → List Text → Option (List Text)
  | xs, [] => some xs
  | x :: xs, y :: ys => if x = y then dropBeginning? xs ys else none
  | [], _ :: _ => none

/-- The way from the directory `base` to `p`, if `p` lies at or below it by name. -/
def relativeTo? (p base : Path) : Option Path :=
  if p.root = base.root then (dropBeginning? p.parts base.parts).map (⟨.relative, ·⟩) else none

/-- Why a leading `~` names no home directory. -/
inductive HomeError where
  | unknownUser
  | embeddedNull
deriving DecidableEq, Repr

/-- The home directory of the user `name`, whose own home is `home`. -/
def homeOf (home : Text) (name : Text) : Except HomeError Path :=
  if name = "" then .ok (ofString home)
  else if name = "root" then .ok (ofString "/root")
  else if name.toList.contains '\x00' then .error .embeddedNull
  else .error .unknownUser

/-- A path with the home directory in the place of a leading `~` or `~user`. -/
def expandHome (home : Text) (p : Path) : Except HomeError Path :=
  match p.root, p.parts with
  | .relative, first :: rest =>
    match first.toList with
    | '~' :: name => (homeOf home (Text.ofList name)).map fun h => ⟨h.root, h.parts ++ rest⟩
    | _ => .ok p
  | _, _ => .ok p

end Path

/-- The name of a file as seen from the workspace; files outside it keep their name. -/
def relativeToWorkspace (file : Text) (workspace : Option Text) : Text :=
  match workspace with
  | none => file
  | some w =>
    match (Path.ofString file).relativeTo? (Path.ofString w) with
    | some p => p.toString
    | none => file

end LintPreview
