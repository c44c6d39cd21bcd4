import LintPreview.Document
import LintPreview.Text.Base64
import LintPreview.Number.Literal
import LintPreview.Text.Lines
import LintPreview.Yaml.Pen

/-!
Writing a document as YAML.

* `Document.toYaml`: the text of a document, keys in their order, every collection in block form unless it is empty.
  A value that stands in several places gets an anchor at the first one and an alias at the others.
* `Document.dumpFault?`: why a document cannot be written.
-/

namespace LintPreview.Yaml

/-- A scalar that is ready to be written: its code points, its tag, whether its form alone gives the tag, whether
it is a text, and whether it is wished for as a block. -/
structure Scalar where
  codes : List CodePoint
  tagName : Text
  formed : Bool
  isText : Bool := false
  asBlock : Bool := false

namespace Scalar

/-- A scalar whose form gives its tag. -/
def ofForm (tagName text : Text) : Scalar := ⟨text.toList, tagName, true, false, false⟩

/-- A text. -/
def ofText (s : Text) : Scalar :=
  ⟨s.toList, "!!str", Tag.ofPlain s == .text, true, false⟩

/-- The text of a decimal number, with a point in front of a bare exponent. -/
def floatText (x : Binary64) : Text :=
  match x with
  | .undefined => ".nan"
  | .infinite negative => if negative then "-.inf" else ".inf"
  | x =>
    let cs := x.toText.toList
    if cs.contains '.' then Text.ofList cs
    else Text.ofList (cs.flatMap fun c : CodePoint => if c == 'e' then ['.', '0', 'e'] else [c])

/-- The scalar of a value that is no collection. -/
def ofDocument? : Document → Option Scalar
  | .null => some (ofForm "!!null" "null")
  | .bool b => some (ofForm "!!bool" (if b then "true" else "false"))
  | .int i => some (ofForm "!!int" (Text.ofInt i))
  | .float x => some (ofForm "!!float" (floatText x))
  | .text s => some (ofText s)
  | .bytes bs => some ⟨Text.Base64.encode bs, "!!binary", false, false, true⟩
  | .moment _ m => some (ofForm "!!timestamp" (m.text " "))
  | _ => none

end Scalar

/-- Where a node is written. -/
inductive Place where
  | root
  | item
  | key
  | keyBlock
  | value
deriving DecidableEq, Repr

/-- Whether a place belongs to a mapping. -/
def Place.inMapping : Place → Bool
  | .root => false
  | .item => false
  | _ => true

/-- Labels of the values that stand in several places, in the order of their second places. -/
structure Sharing where
  seen : List Nat := []
  shared : List Nat := []

namespace Sharing

/-- Takes note of a label, and tells whether it is new. -/
def note (s : Sharing) (label : Nat) : Sharing × Bool :=
  if s.seen.contains label then
    (if s.shared.contains label then s else { s with shared := s.shared ++ [label] }, false)
  else ({ s with seen := label :: s.seen }, true)

mutual

/-- Takes note of the labels in a document. -/
def ofDocument (s : Sharing) : Document → Sharing
  | .moment l _ => (s.note l).1
  | .enclosing l => (s.note l).1
  | .list l items =>
    match s.note l with
    | (s, true) => ofItems s items
    | (s, false) => s
  | .map l entries =>
    match s.note l with
    | (s, true) => ofEntries s entries
    | (s, false) => s
  | .set l items =>
    match s.note l with
    | (s, true) => ofItems s items
    | (s, false) => s
  | _ => s

/-- Takes note of the labels in items. -/
def ofItems (s : Sharing) : List Document → Sharing
  | [] => s
  | d :: rest => ofItems (ofDocument s d) rest

/-- Takes note of the labels in entries. -/
def ofEntries (s : Sharing) : List (Document × Document) → Sharing
  | [] => s
  | (k, v) :: rest => ofEntries (ofDocument (ofDocument s k) v) rest

end

end Sharing

/-- Writing a document: the pen, the shared labels and those whose value is written. -/
structure Writer where
  pen : Pen := {}
  shared : List Nat
  done : List Nat := []

namespace Writer

/-- The writer with another pen. -/
def draw (w : Writer) (f : Pen → Pen) : Writer := { w with pen := f w.pen }

/-- The name of the anchor of a shared label. -/
def anchorName? (w : Writer) (label : Nat) : Option (List CodePoint) :=
  (w.shared.idxOf? label).map fun i => 'i' :: 'd' :: Binary64.padded 3 (i + 1)

/-- Writes an anchor for a value in its first place, or an alias in a further one; tells whether the value is still
to be written. -/
def introduce (w : Writer) (label : Nat) : Writer × Bool :=
  match w.anchorName? label with
  | none => (w, true)
  | some name =>
    if w.done.contains label then (w.draw fun p => p.mark ('*' :: name) true, false)
    else ({ w with done := label :: w.done, pen := w.pen.mark ('&' :: name) true }, true)

/-- The indentation inside a node. -/
def deeper : Option Nat → Nat
  | none => 2
  | some n => n + 2

/-- Writes a scalar. -/
def scalar (w : Writer) (place : Place) (indent : Option Nat) (s : Scalar) : Writer :=
  let traits := Traits.ofChars s.codes
  let asKey := place == .key
  let style := chooseStyle traits s.formed s.asBlock asKey
  let split := !asKey
  let inner := deeper indent
  let tagged := if style == .plain then !s.formed else !s.isText
  let w := if tagged then w.draw fun p => p.mark s.tagName.toList true else w
  w.draw fun p => match style with
    | .plain => p.plain split inner s.codes
    | .single => p.single split inner s.codes
    | .double => p.double split inner s.codes
    | .literal => p.literal inner (Text.lines s.codes)

/-- Whether a key is written in front of its colon on one line; `label` has an anchor of so many characters. -/
def isShortKey (w : Writer) (d : Document) : Bool :=
  let anchor (label : Nat) : Nat := ((w.anchorName? label).map List.length).getD 0
  let repeated (label : Nat) : Bool := w.done.contains label && (w.anchorName? label).isSome
  match Scalar.ofDocument? d with
  | some s =>
    let label := match d with
      | .moment l _ => some l
      | _ => none
    if label.any repeated then true
    else
      let traits := Traits.ofChars s.codes
      let length := (label.map anchor).getD 0 + s.tagName.length + s.codes.length
      length < 128 && !traits.empty && !traits.multiline
  | none =>
    match d with
    | .enclosing _ => true
    | .list l items => repeated l || items.isEmpty
    | .map l entries => repeated l || entries.isEmpty
    | .set l items => repeated l || items.isEmpty
    | _ => false

mutual

/-- Writes a node. -/
def node (w : Writer) (place : Place) (indent : Option Nat) : Document → Writer
  | .enclosing l => (w.introduce l).1
  | .list l items =>
    match w.introduce l with
    | (w, false) => w
    | (w, true) =>
      if items.isEmpty then w.draw fun p => (p.mark ['['] true true).mark [']'] false
      else
        let loose := place.inMapping && !w.pen.atIndent
        writeItems w ((indent.map fun n => if loose then n else n + 2).getD 0) items
  | .map l entries =>
    match w.introduce l with
    | (w, false) => w
    | (w, true) =>
      if entries.isEmpty then w.draw fun p => (p.mark ['\x7b'] true true).mark ['\x7d'] false
      else writeEntries w ((indent.map (· + 2)).getD 0) entries
  | .set l items =>
    match w.introduce l with
    | (w, false) => w
    | (w, true) =>
      let w := w.draw fun p => p.mark (Text.toList "!!set") true
      if items.isEmpty then w.draw fun p => (p.mark ['\x7b'] true true).mark ['\x7d'] false
      else writeMembers w ((indent.map (· + 2)).getD 0) items
  | .moment l m =>
    match w.introduce l with
    | (w, false) => w
    | (w, true) => w.scalar place indent (.ofForm "!!timestamp" (m.text " "))
  | d =>
    match Scalar.ofDocument? d with
    | some s => w.scalar place indent s
    | none => w

/-- Writes the items of a block sequence. -/
def writeItems (w : Writer) (indent : Nat) : List Document → Writer
  | [] => w
  | d :: rest =>
    let w := w.draw fun p => (p.indentTo indent).mark ['-'] true false true
    writeItems (node w .item (some indent) d) indent rest

/-- Writes the entries of a block mapping. -/
def writeEntries (w : Writer) (indent : Nat) : List (Document × Document) → Writer
  | [] => w
  | (k, v) :: rest =>
    let w := w.draw fun p => p.indentTo indent
    let w :=
      if w.isShortKey k then
        (node w .key (some indent) k).draw fun p => p.mark [':'] false
      else
        let w := w.draw fun p => p.mark ['?'] true false true
        (node w .keyBlock (some indent) k).draw fun p => (p.indentTo indent).mark [':'] true false true
    writeEntries (node w .value (some indent) v) indent rest

/-- Writes the members of a set as keys without values. -/
def writeMembers (w : Writer) (indent : Nat) : List Document → Writer
  | [] => w
  | k :: rest =>
    let w := w.draw fun p => p.indentTo indent
    let w :=
      if w.isShortKey k then
        (node w .key (some indent) k).draw fun p => p.mark [':'] false
      else
        let w := w.draw fun p => p.mark ['?'] true false true
        (node w .keyBlock (some indent) k).draw fun p => (p.indentTo indent).mark [':'] true false true
    writeMembers (w.scalar .value (some indent) (.ofForm "!!null" "null")) indent rest

end

end Writer

end LintPreview.Yaml

namespace LintPreview

/-- The characters of a document in YAML. -/
def Document.toYamlChars (d : Document) : List CodePoint :=
  let w : Yaml.Writer := { shared := (Yaml.Sharing.ofDocument {} d).shared }
  ((w.node .root none d).pen.indentTo 0).written.reverse

/-- Why a document cannot be written. -/
inductive DumpFault where
  | tooDeep
  | numberTooLong
deriving DecidableEq, Repr

/-- The wording of a fault. -/
def DumpFault.message : DumpFault → Text
  | .tooDeep => Yaml.Fault.message .tooDeep
  | .numberTooLong => tooLongToWriteMessage

namespace Document

/-- How deep collections may be nested in a document that is written. -/
def maxDumpDepth : Nat := 329

mutual

/-- The first value that cannot be written, where `room` more collections may be opened. -/
def faultWithin (room : Nat) : Document → Option DumpFault
  | .int i => if isTooLongToWrite i then some .numberTooLong else none
  | .list _ items => if room = 0 then some .tooDeep else faultInItems (room - 1) items
  | .map _ entries => if room = 0 then some .tooDeep else faultInEntries (room - 1) entries
  | .set _ items => if room = 0 then some .tooDeep else faultInItems (room - 1) items
  | _ => none

/-- The first item that cannot be written. -/
def faultInItems (room : Nat) : List Document → Option DumpFault
  | [] => none
  | d :: rest => (faultWithin room d) <|> (faultInItems room rest)

/-- The first key or value that cannot be written. -/
def faultInEntries (room : Nat) : List (Document × Document) → Option DumpFault
  | [] => none
  | (k, v) :: rest => (faultWithin room k) <|> (faultWithin room v) <|> (faultInEntries room rest)

end

/-- Why a document cannot be written, if it cannot. -/
def dumpFault? (d : Document) : Option DumpFault := faultWithin maxDumpDepth d

end Document

/-- The text of a document in YAML. -/
def Document.toYaml (d : Document) : Text := Text.ofList d.toYamlChars

end LintPreview
