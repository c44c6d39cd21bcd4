import LintPreview.Deflate.Stream
import LintPreview.Text.Lines
import LintPreview.Text.Case

/-!
Content codings: how the body of a response is compressed.

* `ContentDecoding.ofHeader`: the steps that undo the codings that a response names, the last one first. Codings that
  are not known are passed over.
* `ContentDecoding.feed`: what one more part of the body stands for.
-/

namespace LintPreview.Remote

open Deflate

/-- A step that undoes a coding. One that expects a checked stream takes the first part as a bare one if it is no
checked one. -/
inductive DecodingStep where
  | archive (s : Stream)
  | deflated (isFirst : Bool) (s : Stream)
deriving Repr

/-- The step that undoes the coding with a name in lower case. -/
def DecodingStep.ofName? (name : List CodePoint) : Option DecodingStep :=
  if name = Text.toList "gzip" then some (.archive { frame := .archive })
  else if name = Text.toList "deflate" then some (.deflated true { frame := .checked })
  else none

/-- What one more part stands for, and the step behind it. -/
def DecodingStep.feed (part : List UInt8) : DecodingStep → Except InflateFault (List UInt8 × DecodingStep)
  | .archive s => (s.feed part).map fun (bytes, s) => (bytes, .archive s)
  | .deflated isFirst s =>
    match s.feed part, isFirst with
    | .ok (bytes, s), _ => .ok (bytes, .deflated false s)
    | .error f, false => .error f
    | .error _, true => (({ frame := .bare } : Stream).feed part).map fun (bytes, s) => (bytes, .deflated false s)

/-- The steps that undo codings. -/
abbrev ContentDecoding := List DecodingStep

namespace ContentDecoding

/-- The steps that undo the codings that a response names. -/
def ofHeader (names : Text) : ContentDecoding :=
  let names := (Text.splitOnChar ',' names.toList).map fun name => Text.lowerChars (Text.trimChars name)
  (names.filterMap DecodingStep.ofName?).reverse

/-- What one more part of a body stands for, and the steps behind it. -/
def feed (part : List UInt8) : ContentDecoding → Except InflateFault (List UInt8 × ContentDecoding)
  | [] => .ok (part, [])
  | step :: rest => do
    let (bytes, step) ← step.feed part
    let (bytes, rest) ← feed bytes rest
    return (bytes, step :: rest)

end ContentDecoding

end LintPreview.Remote
