import LintPreview.Files
import LintPreview.Overlay
import LintPreview.Yaml.Load

/-!
Baselines: the configuration that a project has.

* `readBaseline`: the configuration in a file of a tree; no path means an empty one.
* `baselineOfText`: the configuration in a text.
* `checkConfiguration`: whether a text may be a configuration at all.
-/

namespace LintPreview

/-- Why a file is no baseline. -/
inductive BaselineFault where
  | unreadable (e : FileError)
  | notText (e : Text.Utf8Error)
  | notYaml
  | notMapping (kindName : Text)
  | notTexts (key : ListKey)
deriving DecidableEq, Repr

/-- The wording of a fault. -/
def BaselineFault.message : BaselineFault → Text
  | .unreadable e => e.message
  | .notText e => e.message
  | .notYaml => "not valid YAML: " ++ Yaml.Fault.malformed.message
  | .notMapping kind => "top level is " ++ kind ++ ", expected a mapping"
  | .notTexts key => key.text ++ " must be a list of strings"

/-- Why there is no baseline: the file is refused, or something in it or in its path has no meaning. -/
inductive BaselineError where
  | invalid (path : Text) (fault : BaselineFault)
  | value (fault : Yaml.Fault)
  | path (fault : PathFault)
deriving DecidableEq, Repr

/-- Whether a value may stand under a list key: null, a text, or a list of texts. -/
def isListOfTexts : Document → Bool
  | .null => true
  | .text _ => true
  | .list _ items => items.all Document.isText
  | _ => false

/-- The first list key whose value is no list of texts. -/
def firstBadKey? (d : Document) : Option ListKey :=
  ListKey.all.find? fun key => !isListOfTexts ((d.get? key.text).getD .null)

/-- An empty configuration. -/
def emptyConfiguration : Document := .map 0 []

/-- The configuration in a text. -/
def baselineOfText (path : Text) (text : List CodePoint) : Except BaselineError Document :=
  match Document.ofYaml text with
  | .error .malformed => .error (.invalid path .notYaml)
  | .error fault => .error (.value fault)
  | .ok .null => .ok emptyConfiguration
  | .ok (.map l entries) =>
    match firstBadKey? (.map l entries) with
    | some key => .error (.invalid path (.notTexts key))
    | none => .ok (.map l entries)
  | .ok d => .error (.invalid path (.notMapping d.kindName))

/-- The configuration in a file, given what reading it brought. -/
def baselineOfRead (path : Path) : Except PathFault (List UInt8) → Except BaselineError Document
  | .error (.file e) => .error (.invalid path.toString (.unreadable e))
  | .error fault => .error (.path fault)
  | .ok content =>
    match FileTree.textOf content with
    | .error e => .error (.invalid path.toString (.notText e))
    | .ok text => baselineOfText path.toString text

/-- The configuration in a file. -/
def readBaseline (t : FileTree) : (path : Option Path) → Except BaselineError Document
  | none => .ok emptyConfiguration
  | some p => baselineOfRead p (t.readBytes p)

/-- Why a text may be no configuration. -/
inductive ConfigurationFault where
  | notYaml
  | notMapping (kindName : Text)
  | value (fault : Yaml.Fault)
deriving DecidableEq, Repr

/-- Whether a text is YAML that holds a mapping or nothing. -/
def checkConfiguration (text : List CodePoint) : Except ConfigurationFault Unit :=
  match Yaml.kindOfYaml text with
  | .error .malformed => .error .notYaml
  | .error fault => .error (.value fault)
  | .ok kind =>
    if kind = Document.null.kindName ∨ kind = (Document.map 0 []).kindName then .ok ()
    else .error (.notMapping kind)

end LintPreview
