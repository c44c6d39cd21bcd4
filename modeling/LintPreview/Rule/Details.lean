import LintPreview.Rule.Basic
import LintPreview.Text.Lines

/-!
The listing of a single rule: a header line, then sections of examples.

* `readDetails`: name, description and examples of a listing; what is not recognised gives empty details.
* `Rule.enrich`: a rule with what it lacks filled in from details.
-/

namespace LintPreview

/-- What the listing of a rule adds to it. -/
structure Details where
  name : Option Text := none
  description : Text := ""
  triggeringExamples : List Text := []
  nonTriggeringExamples : List Text := []
deriving DecidableEq, Repr, Inhabited

/-- The section that a line of the listing belongs to. -/
inductive DetailSection where
  | outside
  | triggering
  | nonTriggering
deriving DecidableEq, Repr

/-- What a line of a listing does. -/
inductive DetailLine where
  | heading (opens : DetailSection)
  | separator
  | content
deriving DecidableEq, Repr

/-- What a trimmed line does. -/
def detailLine (line : List CodePoint) : DetailLine :=
  let has (words : Text) : Bool := Text.containsText words.toList line
  let starts (words : Text) : Bool := Text.startsWith words.toList line
  if has "Non Triggering Examples" || has "Non-Triggering Examples" then .heading .nonTriggering
  else if has "Triggering Examples" then .heading .triggering
  else if starts "Configuration" || starts "+" then .heading .outside
  else if line.isEmpty || starts "Example #" then .separator
  else .content

/-- Reading a listing: the details so far, the open section and the lines of the open example in reverse. -/
structure DetailReader where
  details : Details
  place : DetailSection := .outside
  openExample : List (List CodePoint) := []

namespace DetailReader

/-- The example that lines make: without their shared margin and the blanks around it. -/
def exampleText (ls : List (List CodePoint)) : Text :=
  Text.ofList (Text.trimChars (Text.joinWith ['\n'] (Text.dedent ls)))

/-- Closes the open example. -/
def close (r : DetailReader) : DetailReader :=
  let text := exampleText r.openExample.reverse
  let details :=
    if text.isEmpty then r.details
    else match r.place with
      | .outside => r.details
      | .triggering => { r.details with triggeringExamples := r.details.triggeringExamples ++ [text] }
      | .nonTriggering => { r.details with nonTriggeringExamples := r.details.nonTriggeringExamples ++ [text] }
  { r with details := details, openExample := [] }

/-- A line of an example without the marks of violations and the blanks at its end. -/
def exampleLine (line : List CodePoint) : List CodePoint := Text.trimRightChars (line.filter fun c : CodePoint => c != '↓')

/-- Reads one line. -/
def step (r : DetailReader) (line : List CodePoint) : DetailReader :=
  match detailLine (Text.trimChars line) with
  | .heading opens => { r.close with place := opens }
  | .separator => if r.place = .outside then r else r.close
  | .content => if r.place = .outside then r else { r with openExample := exampleLine line :: r.openExample }

end DetailReader

/-- The details of a header line such as `Force Cast (force_cast): Force casts should be avoided`. -/
def headerDetails (line : List CodePoint) : Details :=
  match Text.cutAt ':' line with
  | (front, some description) =>
    match Text.cutAt '(' front with
    | (name, some _) =>
      let name := Text.ofList (Text.trimChars name)
      { name := if name.isEmpty then none else some name
        description := Text.ofList (Text.trimChars description) }
    | _ => {}
  | _ => {}

/-- The details of a listing. -/
def readDetails (output : Text) : Details :=
  let isFeed (c : CodePoint) : Bool := c == '\n'
  match Text.lines ((output.toList.dropWhile isFeed).reverse.dropWhile isFeed).reverse with
  | [] => {}
  | header :: body => (body.foldl DetailReader.step { details := headerDetails header }).close.details

/-- A rule with what it lacks filled in. A name in the details always counts. -/
def Rule.enrich (r : Rule) (d : Details) : Rule :=
  { r with
    name := d.name.getD r.name
    description := if r.description.isEmpty then d.description else r.description
    triggeringExamples := if r.triggeringExamples.isEmpty then d.triggeringExamples else r.triggeringExamples
    nonTriggeringExamples :=
      if r.nonTriggeringExamples.isEmpty then d.nonTriggeringExamples else r.nonTriggeringExamples }

/-- Whether details fill in anything. -/
def Rule.isEnrichedBy (r : Rule) (d : Details) : Bool :=
  d.name.isSome || (!d.description.isEmpty && r.description.isEmpty) ||
    (!d.triggeringExamples.isEmpty && r.triggeringExamples.isEmpty) ||
    (!d.nonTriggeringExamples.isEmpty && r.nonTriggeringExamples.isEmpty)

end LintPreview
